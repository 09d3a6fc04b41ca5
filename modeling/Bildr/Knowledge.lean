import Bildr.Improvement
/-!
# Knowledge — knowledge items

A knowledge item is a statement with the receipts of its evidence, a scope, a freshness window, and the review it has
had.  Its digest covers every other field.  `KnowledgeItemV1.json` and `KnowledgeItemV1.parse` are its serialized form:
fields sorted by name, unknown fields refused, optional ones allowed to be absent.
-/
namespace Bildr
namespace Knowledge

open Json (Value)
open Improvement (token isLowerHex)

inductive ReceiptKind
  | trace | outcome | failure | investigationArtifact | livenessObservation | reconciliationEpisode | evalCase | taskset
  | graderBundle | runtime | policyBundle | humanReview
deriving DecidableEq, Repr

inductive EvalSplit
  | training | development | holdout | canary | quarantine
deriving DecidableEq, Repr

inductive CustodyState
  | clean | invalidated | restricted
deriving DecidableEq, Repr

inductive KnowledgeKind
  | fact | procedure | warning | heuristic | antiPattern
deriving DecidableEq, Repr

inductive ReviewState
  | unreviewed | accepted | rejected | needsRevalidation
deriving DecidableEq, Repr

inductive KnowledgeState
  | candidate | active | expired | contradicted | superseded | rejected
deriving DecidableEq, Repr

structure SourceReceipt where
  kind : ReceiptKind
  revisionId : String
  digest : String
  split : Option EvalSplit
  custody : Option CustodyState
deriving DecidableEq

structure KnowledgeReview where
  state : ReviewState
  reviewerId : Option String
  reviewedAt : Option Nat
  receipt : Option SourceReceipt
deriving DecidableEq

structure KnowledgeFreshness where
  createdAt : Nat
  revalidateAfter : Nat
  expiresAt : Nat
deriving DecidableEq

structure KnowledgeScope where
  repositoryId : String
  taskFamily : String
  modelFamily : Option String
  runtimeClass : Option String
deriving DecidableEq

structure KnowledgeItemV1 where
  schema : String
  knowledgeId : String
  kind : KnowledgeKind
  statement : String
  scope : KnowledgeScope
  evidence : List SourceReceipt
  confidenceMilli : Nat
  review : KnowledgeReview
  freshness : KnowledgeFreshness
  contradicts : List String
  supersedes : List String
  state : KnowledgeState
  sha256 : String
deriving DecidableEq

/-! ## The names of the enumerations -/

def ReceiptKind.name : ReceiptKind → String
  | .trace                 => "trace"
  | .outcome               => "outcome"
  | .failure               => "failure"
  | .investigationArtifact => "investigation_artifact"
  | .livenessObservation   => "liveness_observation"
  | .reconciliationEpisode => "reconciliation_episode"
  | .evalCase              => "eval_case"
  | .taskset               => "taskset"
  | .graderBundle          => "grader_bundle"
  | .runtime               => "runtime"
  | .policyBundle          => "policy_bundle"
  | .humanReview           => "human_review"

def receiptKinds : List ReceiptKind :=
  [.trace, .outcome, .failure, .investigationArtifact, .livenessObservation, .reconciliationEpisode, .evalCase, .taskset,
    .graderBundle, .runtime, .policyBundle, .humanReview]

def EvalSplit.name : EvalSplit → String
  | .training    => "training"
  | .development => "development"
  | .holdout     => "holdout"
  | .canary      => "canary"
  | .quarantine  => "quarantine"

def evalSplits : List EvalSplit := [.training, .development, .holdout, .canary, .quarantine]

def CustodyState.name : CustodyState → String
  | .clean       => "clean"
  | .invalidated => "invalidated"
  | .restricted  => "restricted"

def custodyStates : List CustodyState := [.clean, .invalidated, .restricted]

def KnowledgeKind.name : KnowledgeKind → String
  | .fact        => "fact"
  | .procedure   => "procedure"
  | .warning     => "warning"
  | .heuristic   => "heuristic"
  | .antiPattern => "anti_pattern"

def knowledgeKinds : List KnowledgeKind := [.fact, .procedure, .warning, .heuristic, .antiPattern]

def ReviewState.name : ReviewState → String
  | .unreviewed        => "unreviewed"
  | .accepted          => "accepted"
  | .rejected          => "rejected"
  | .needsRevalidation => "needs_revalidation"

def reviewStates : List ReviewState := [.unreviewed, .accepted, .rejected, .needsRevalidation]

def KnowledgeState.name : KnowledgeState → String
  | .candidate    => "candidate"
  | .active       => "active"
  | .expired      => "expired"
  | .contradicted => "contradicted"
  | .superseded   => "superseded"
  | .rejected     => "rejected"

def knowledgeStates : List KnowledgeState := [.candidate, .active, .expired, .contradicted, .superseded, .rejected]

/-! ## Writing -/

/-- `Option::None` is written as `null`. -/
def nullable {α : Type} (f : α → Value) (o : Option α) : Value := (o.map f).getD .null

def natural (n : Nat) : Value := .num (.pos n)

def texts (l : List String) : Value := .arr (l.map Value.str)

def SourceReceipt.json (r : SourceReceipt) : Value :=
  .obj [("custody", nullable (fun c => .str c.name) r.custody), ("digest", .str r.digest), ("kind", .str r.kind.name),
    ("revision_id", .str r.revisionId), ("split", nullable (fun s => .str s.name) r.split)]

def KnowledgeReview.json (r : KnowledgeReview) : Value :=
  .obj [("receipt", nullable SourceReceipt.json r.receipt), ("reviewed_at", nullable natural r.reviewedAt),
    ("reviewer_id", nullable Value.str r.reviewerId), ("state", .str r.state.name)]

def KnowledgeFreshness.json (f : KnowledgeFreshness) : Value :=
  .obj [("created_at", natural f.createdAt), ("expires_at", natural f.expiresAt),
    ("revalidate_after", natural f.revalidateAfter)]

def KnowledgeScope.json (s : KnowledgeScope) : Value :=
  .obj [("model_family", nullable Value.str s.modelFamily), ("repository_id", .str s.repositoryId),
    ("runtime_class", nullable Value.str s.runtimeClass), ("task_family", .str s.taskFamily)]

def KnowledgeItemV1.fields (k : KnowledgeItemV1) (sha256 : List (String × Value)) : Value :=
  .obj ([("confidence_milli", natural k.confidenceMilli), ("contradicts", texts k.contradicts),
    ("evidence", .arr (k.evidence.map SourceReceipt.json)), ("freshness", k.freshness.json), ("kind", .str k.kind.name),
    ("knowledge_id", .str k.knowledgeId), ("review", k.review.json), ("schema", .str k.schema),
    ("scope", k.scope.json)] ++ sha256 ++
    [("state", .str k.state.name), ("statement", .str k.statement), ("supersedes", texts k.supersedes)])

def KnowledgeItemV1.json (k : KnowledgeItemV1) : Value := k.fields [("sha256", .str k.sha256)]

/-- The value the digest is taken of: the field `sha256` is removed. -/
def KnowledgeItemV1.unsigned (k : KnowledgeItemV1) : Value := k.fields []

/-! ## Reading -/

/-- The fields of a struct in the order of its declaration: an object holds them by name, an array by position. -/
def entries (names : List String) : Value → Option (List (Option Value))
  | .obj fields => if fields.all (fun f => names.contains f.1) then some (names.map (fun n => fields.lookup n)) else none
  | .arr items  => if items.length = names.length then some (items.map some) else none
  | _           => none

/-- A variant without data: its name, or an object that maps its name to `null`. -/
def parseVariant {α : Type} (all : List α) (name : α → String) : Value → Option α
  | .str s            => all.find? (fun a => name a == s)
  | .obj [(s, .null)] => all.find? (fun a => name a == s)
  | _                 => none

def parseText : Value → Option String := Value.asStr

/-- A number of the type; the parser hands over no integer beyond 64 bits. -/
def parseNatural : Value → Option Nat
  | .num (.pos n) => some n
  | _             => none

def parseU16 (v : Value) : Option Nat := (parseNatural v).filter (fun n => decide (n ≤ 65535))

def parseList {α : Type} (f : Value → Option α) : Value → Option (List α)
  | .arr items => items.mapM f
  | _          => none

/-- A field that may be absent or `null`. -/
def optional {α : Type} (f : Value → Option α) : Option Value → Option (Option α)
  | none       => some none
  | some .null => some none
  | some v     => (f v).map some

def SourceReceipt.parse (v : Value) : Option SourceReceipt :=
  match entries ["kind", "revision_id", "digest", "split", "custody"] v with
  | some [kind, revisionId, digest, split, custody] => do
    let kind ← kind.bind (parseVariant receiptKinds ReceiptKind.name)
    let revisionId ← revisionId.bind parseText
    let digest ← digest.bind parseText
    let split ← optional (parseVariant evalSplits EvalSplit.name) split
    let custody ← optional (parseVariant custodyStates CustodyState.name) custody
    return ⟨kind, revisionId, digest, split, custody⟩
  | _ => none

def KnowledgeReview.parse (v : Value) : Option KnowledgeReview :=
  match entries ["state", "reviewer_id", "reviewed_at", "receipt"] v with
  | some [state, reviewerId, reviewedAt, receipt] => do
    let state ← state.bind (parseVariant reviewStates ReviewState.name)
    let reviewerId ← optional parseText reviewerId
    let reviewedAt ← optional parseNatural reviewedAt
    let receipt ← optional SourceReceipt.parse receipt
    return ⟨state, reviewerId, reviewedAt, receipt⟩
  | _ => none

def KnowledgeFreshness.parse (v : Value) : Option KnowledgeFreshness :=
  match entries ["created_at", "revalidate_after", "expires_at"] v with
  | some [createdAt, revalidateAfter, expiresAt] => do
    let createdAt ← createdAt.bind parseNatural
    let revalidateAfter ← revalidateAfter.bind parseNatural
    let expiresAt ← expiresAt.bind parseNatural
    return ⟨createdAt, revalidateAfter, expiresAt⟩
  | _ => none

def KnowledgeScope.parse (v : Value) : Option KnowledgeScope :=
  match entries ["repository_id", "task_family", "model_family", "runtime_class"] v with
  | some [repositoryId, taskFamily, modelFamily, runtimeClass] => do
    let repositoryId ← repositoryId.bind parseText
    let taskFamily ← taskFamily.bind parseText
    let modelFamily ← optional parseText modelFamily
    let runtimeClass ← optional parseText runtimeClass
    return ⟨repositoryId, taskFamily, modelFamily, runtimeClass⟩
  | _ => none

def itemFields : List String :=
  ["schema", "knowledge_id", "kind", "statement", "scope", "evidence", "confidence_milli", "review", "freshness",
    "contradicts", "supersedes", "state", "sha256"]

def KnowledgeItemV1.parse (v : Value) : Option KnowledgeItemV1 :=
  match entries itemFields v with
  | some [schema, knowledgeId, kind, statement, scope, evidence, confidenceMilli, review, freshness, contradicts,
      supersedes, state, sha256] => do
    let schema ← schema.bind parseText
    let knowledgeId ← knowledgeId.bind parseText
    let kind ← kind.bind (parseVariant knowledgeKinds KnowledgeKind.name)
    let statement ← statement.bind parseText
    let scope ← scope.bind KnowledgeScope.parse
    let evidence ← evidence.bind (parseList SourceReceipt.parse)
    let confidenceMilli ← confidenceMilli.bind parseU16
    let review ← review.bind KnowledgeReview.parse
    let freshness ← freshness.bind KnowledgeFreshness.parse
    let contradicts ← contradicts.bind (parseList parseText)
    let supersedes ← supersedes.bind (parseList parseText)
    let state ← state.bind (parseVariant knowledgeStates KnowledgeState.name)
    let sha256 ← sha256.bind parseText
    return ⟨schema, knowledgeId, kind, statement, scope, evidence, confidenceMilli, review, freshness, contradicts,
      supersedes, state, sha256⟩
  | _ => none

section RoundTrip
variable {α : Type}

theorem optional_nullable {f : α → Value} {g : Value → Option α} (hnull : ∀ a, f a ≠ .null) (h : ∀ a, g (f a) = some a)
    (o : Option α) : optional g (some (nullable f o)) = some o := by
  cases o with
  | none => rfl
  | some a =>
    have hv : optional g (some (f a)) = (g (f a)).map some := by
      cases hf : f a with
      | null => exact absurd hf (hnull a)
      | _ => rfl
    show optional g (some (f a)) = some (some a)
    rw [hv, h a]
    rfl

theorem parseList_map {f : α → Value} {g : Value → Option α} (h : ∀ a, g (f a) = some a) (l : List α) :
    parseList g (.arr (l.map f)) = some l := by
  show (l.map f).mapM g = some l
  induction l with
  | nil => rfl
  | cons a l ih => rw [List.map_cons, List.mapM_cons, h a, ih]; rfl

theorem parse_receiptKind (k : ReceiptKind) : parseVariant receiptKinds ReceiptKind.name (.str k.name) = some k := by
  cases k <;> decide

theorem parse_evalSplit (s : EvalSplit) : parseVariant evalSplits EvalSplit.name (.str s.name) = some s := by
  cases s <;> decide

theorem parse_custodyState (c : CustodyState) :
    parseVariant custodyStates CustodyState.name (.str c.name) = some c := by
  cases c <;> decide

theorem parse_knowledgeKind (k : KnowledgeKind) :
    parseVariant knowledgeKinds KnowledgeKind.name (.str k.name) = some k := by
  cases k <;> decide

theorem parse_reviewState (s : ReviewState) : parseVariant reviewStates ReviewState.name (.str s.name) = some s := by
  cases s <;> decide

theorem parse_knowledgeState (s : KnowledgeState) :
    parseVariant knowledgeStates KnowledgeState.name (.str s.name) = some s := by
  cases s <;> decide

theorem parse_optionalText (o : Option String) : optional parseText (some (nullable Value.str o)) = some o :=
  optional_nullable (f := Value.str) (fun _ h => by cases h) (fun _ => rfl) o

@[simp] theorem parse_receipt (r : SourceReceipt) : SourceReceipt.parse r.json = some r := by
  have hfields : entries ["kind", "revision_id", "digest", "split", "custody"] r.json =
      some [some (.str r.kind.name), some (.str r.revisionId), some (.str r.digest),
        some (nullable (fun s => .str s.name) r.split), some (nullable (fun c => .str c.name) r.custody)] := rfl
  have hsplit := optional_nullable (f := fun s : EvalSplit => .str s.name) (fun _ h => by cases h) parse_evalSplit r.split
  have hcustody := optional_nullable (f := fun c : CustodyState => .str c.name) (fun _ h => by cases h)
    parse_custodyState r.custody
  unfold SourceReceipt.parse
  rw [hfields]
  simp only [Option.bind_some, parse_receiptKind, hsplit, hcustody, Option.bind_eq_bind]
  rfl

theorem parse_review (r : KnowledgeReview) : KnowledgeReview.parse r.json = some r := by
  have hfields : entries ["state", "reviewer_id", "reviewed_at", "receipt"] r.json =
      some [some (.str r.state.name), some (nullable Value.str r.reviewerId), some (nullable natural r.reviewedAt),
        some (nullable SourceReceipt.json r.receipt)] := rfl
  have hat := optional_nullable (f := natural) (g := parseNatural) (fun _ h => by cases h) (fun _ => rfl) r.reviewedAt
  have hreceipt := optional_nullable (f := SourceReceipt.json) (fun _ h => by cases h) parse_receipt r.receipt
  unfold KnowledgeReview.parse
  rw [hfields]
  simp only [Option.bind_some, parse_reviewState, parse_optionalText, hat, hreceipt, Option.bind_eq_bind]
  rfl

theorem parse_scope (s : KnowledgeScope) : KnowledgeScope.parse s.json = some s := by
  have hfields : entries ["repository_id", "task_family", "model_family", "runtime_class"] s.json =
      some [some (.str s.repositoryId), some (.str s.taskFamily), some (nullable Value.str s.modelFamily),
        some (nullable Value.str s.runtimeClass)] := rfl
  unfold KnowledgeScope.parse
  rw [hfields]
  simp only [Option.bind_some, parse_optionalText, Option.bind_eq_bind]
  rfl

/-- **An item whose confidence fits its type is read back as it was written.** -/
theorem parse_json {k : KnowledgeItemV1} (h : k.confidenceMilli ≤ 65535) : KnowledgeItemV1.parse k.json = some k := by
  have hfields : entries itemFields k.json =
      some [some (.str k.schema), some (.str k.knowledgeId), some (.str k.kind.name), some (.str k.statement),
        some k.scope.json, some (.arr (k.evidence.map SourceReceipt.json)), some (natural k.confidenceMilli),
        some k.review.json, some k.freshness.json, some (texts k.contradicts), some (texts k.supersedes),
        some (.str k.state.name), some (.str k.sha256)] := rfl
  have hconfidence : parseU16 (natural k.confidenceMilli) = some k.confidenceMilli := by
    show (some k.confidenceMilli).filter _ = _
    rw [Option.filter_some, if_pos (decide_eq_true h)]
  have htexts : ∀ l, parseList parseText (texts l) = some l := fun l =>
    parseList_map (f := Value.str) (fun _ => rfl) l
  have hfreshness : KnowledgeFreshness.parse k.freshness.json = some k.freshness := rfl
  unfold KnowledgeItemV1.parse
  rw [hfields]
  simp only [Option.bind_some, parse_knowledgeKind, parse_scope, parse_review, hfreshness, htexts, hconfidence,
    parse_knowledgeState, parseList_map parse_receipt, Option.bind_eq_bind]
  rfl

end RoundTrip

/-! ## The contract -/

def knowledgeToken (value : String) : Bool := token ['_', '-', '.', ':'] 160 value

def validKnowledgeReceipt (r : SourceReceipt) : Bool := knowledgeToken r.revisionId && isLowerHex r.digest 64

def uniqueKnowledgeTokens (values : List String) : Bool := values.all knowledgeToken && decide values.Nodup

def KnowledgeItemV1.digest (w : Improvement.Wire) (k : KnowledgeItemV1) : String := w.sha256 (w.text (.other k.unsigned))

def KnowledgeItemV1.validIdentity (k : KnowledgeItemV1) : Bool :=
  k.schema == "harness.knowledge-item.v1" && knowledgeToken k.knowledgeId && !k.statement.isEmpty &&
    knowledgeToken k.scope.repositoryId && knowledgeToken k.scope.taskFamily && k.scope.modelFamily.all knowledgeToken &&
    k.scope.runtimeClass.all knowledgeToken

def KnowledgeItemV1.validEvidence (k : KnowledgeItemV1) : Bool :=
  !k.evidence.isEmpty && decide (k.confidenceMilli ≤ 1000) && decide (k.freshness.createdAt ≤ k.freshness.revalidateAfter) &&
    decide (k.freshness.revalidateAfter ≤ k.freshness.expiresAt) && uniqueKnowledgeTokens k.contradicts &&
    uniqueKnowledgeTokens k.supersedes && k.evidence.all validKnowledgeReceipt &&
    !k.evidence.any (fun e => e.revisionId == k.knowledgeId) && !k.contradicts.contains k.knowledgeId &&
    !k.supersedes.contains k.knowledgeId

/-- An active item carries an accepted review; the receipt of a review is one of a human review. -/
def KnowledgeItemV1.validReview (k : KnowledgeItemV1) : Bool :=
  k.review.reviewerId.all knowledgeToken &&
    k.review.receipt.all (fun r => validKnowledgeReceipt r && decide (r.kind = .humanReview) && r.revisionId != k.knowledgeId) &&
    (!decide (k.state = .active) || (decide (k.review.state = .accepted) && k.review.reviewerId.isSome &&
      k.review.reviewedAt.isSome && k.review.receipt.isSome))

def KnowledgeItemV1.verify (w : Improvement.Wire) (k : KnowledgeItemV1) : Except String Unit :=
  ensure (k.validIdentity && k.validEvidence && k.validReview && k.digest w == k.sha256) "invalid knowledge contract"

theorem verify_ok {w : Improvement.Wire} {k : KnowledgeItemV1} (h : k.verify w = .ok ()) : k.confidenceMilli ≤ 1000 := by
  have hvalid := ensure_ok h
  simp only [KnowledgeItemV1.validEvidence, Bool.and_eq_true, decide_eq_true_eq] at hvalid
  omega

end Knowledge
end Bildr
