import Bildr.Attention
/-!
# Notifications — the mirror of attention, and the presence of operators

Every revision of an active item is claimed once by a delivery that is derived from it; a refresh takes the revisions
that are not claimed yet, the most severe and oldest first.  Presence is one row for each operator, with a version that
every change increments.
-/
namespace Bildr
namespace Control

open Json (Value)

inductive NotificationClass
  | critical | actionRequired | routine
deriving DecidableEq, Repr

def NotificationClass.name : NotificationClass → String
  | .critical       => "critical"
  | .actionRequired => "action_required"
  | .routine        => "routine"

/-- A delivery has one state, `pending`. -/
inductive NotificationState
  | pending
deriving DecidableEq, Repr

def NotificationState.name : NotificationState → String
  | .pending => "pending"

structure NotificationDelivery where
  schema : String
  deliveryId : String
  attentionId : Option String
  notificationClass : NotificationClass
  state : NotificationState
  channel : String
  sourceEventId : String
  createdAtMs : Int
  payloadSha256 : String
  sha256 : String
deriving DecidableEq

def NotificationDelivery.json (d : NotificationDelivery) : Value :=
  .obj [("schema", .str d.schema), ("delivery_id", .str d.deliveryId), ("attention_id", ofOption .str d.attentionId),
    ("class", .str d.notificationClass.name), ("state", .str d.state.name), ("channel", .str d.channel),
    ("source_event_id", .str d.sourceEventId), ("created_at_ms", ofInt d.createdAtMs),
    ("payload_sha256", .str d.payloadSha256), ("sha256", .str d.sha256)]

def NotificationDelivery.digest (w : Wire) (d : NotificationDelivery) : Digest := w.digestJson { d with sha256 := "" }.json

def NotificationDelivery.validate (w : Wire) (d : NotificationDelivery) : Except StoreError Unit := do
  ensure (d.schema == "harness.notification-delivery.v1" && decide (0 ≤ d.createdAtMs) && decide (d.state = .pending) &&
      d.channel == "in_product_mirror")
    (invalidField "notification delivery"
      "must be a pending v1 in-product presentation claim with a non-negative timestamp")
  validateIdentifier d.deliveryId "notification delivery id"
  validateOptional d.attentionId "notification attention id"
  validateIdentifier d.channel "notification channel"
  validateIdentifier d.sourceEventId "notification source event id"
  validateLowerHex d.payloadSha256 "notification payload sha256" 64
  validateDigest d.sha256 (d.digest w) "notification delivery sha256"

/-! ## The mirror -/

structure NotificationTables where
  items : Table AttentionItem.attentionId
  deliveries : Table NotificationDelivery.deliveryId
  links : Links

def checkedDelivery (w : Wire) (d : NotificationDelivery) : Except StoreError NotificationDelivery := do
  ensure (d.validate w).isOk (.sqlite .fromSqlConversionFailure)
  return d

def notificationCorrelationLink (w : Wire) (d : NotificationDelivery) : Except StoreError CorrelationLink :=
  derivedLink w ("harness.notification-delivery.trace.v1:" ++ d.deliveryId)
    ("harness.notification-delivery.span.v1:" ++ d.deliveryId)
    ("harness.notification-delivery.link.v1:" ++ d.deliveryId)
    (if d.attentionId.isSome then "attention" else "notification_source") (d.attentionId.getD d.sourceEventId)
    "notification_delivery" d.deliveryId "presented_as" d.createdAtMs

def deliveryBody (w : Wire) (d : NotificationDelivery) (t : NotificationTables) :
    Except StoreError (NotificationDelivery × NotificationTables) := do
  d.validate w
  let link ← notificationCorrelationLink w d
  match t.deliveries.rows.find? (fun r => r.sourceEventId == d.sourceEventId) with
  | some row => do
    let existing ← checkedDelivery w row
    ensure (existing == d) (.conflict "notification source event already has different content")
    let links ← recordCorrelationLinkInTransaction t.links link
    return (existing, { t with links := links })
  | none => do
    require (d.attentionId.all (fun id => (t.items.get id).isSome))
    let deliveries ← insertRow t.deliveries d
    let links ← recordCorrelationLinkInTransaction t.links link
    return (d, { t with deliveries := deliveries, links := links })

def recordNotificationDelivery (w : Wire) (d : NotificationDelivery) : Call NotificationTables NotificationDelivery :=
  transaction (deliveryBody w d)

def attentionSourceEvent (i : AttentionItem) : String := "attention-" ++ i.attentionId ++ "-" ++ toString i.version

def AttentionSeverity.notificationClass : AttentionSeverity → NotificationClass
  | .critical => .critical
  | .high     => .actionRequired
  | _         => .routine

def deliveryOf (w : Wire) (i : AttentionItem) : NotificationDelivery where
  schema := "harness.notification-delivery.v1"
  deliveryId := "notification-" ++ i.attentionId ++ "-" ++ toString i.version
  attentionId := some i.attentionId
  notificationClass := i.severity.notificationClass
  state := .pending
  channel := "in_product_mirror"
  sourceEventId := attentionSourceEvent i
  createdAtMs := i.openedAtMs
  payloadSha256 := (w.digestJson i.json).hex
  sha256 := ""

def notificationFromAttention (w : Wire) (i : AttentionItem) : Except StoreError NotificationDelivery := do
  validateIdentifier (deliveryOf w i).deliveryId "NotificationDeliveryId"
  let d := { deliveryOf w i with sha256 := ((deliveryOf w i).digest w).hex }
  d.validate w
  return d

def pendingBefore (a b : AttentionItem) : Bool :=
  decide (a.severity.rank < b.severity.rank) || (decide (a.severity.rank = b.severity.rank) &&
    (decide (a.openedAtMs < b.openedAtMs) || (decide (a.openedAtMs = b.openedAtMs) && decide (a.attentionId ≤ b.attentionId))))

def unclaimed (t : NotificationTables) : List AttentionItem :=
  t.items.rows.filter (fun i => i.state.isActive &&
    !t.deliveries.rows.any (fun d => d.sourceEventId == attentionSourceEvent i))

def pendingNotificationAttention (t : NotificationTables) (limit : Nat) : Except StoreError (List AttentionItem) := do
  let page := ((unclaimed t).insertionSort (fun a b => pendingBefore a b = true)).take limit
  ensure (page.all (fun i => i.validate.isOk)) (.sqlite .fromSqlConversionFailure)
  return page

def mirrorItems (w : Wire) : List AttentionItem → Call NotificationTables (List NotificationDelivery)
  | []      => Call.ret []
  | i :: is => fun t =>
    match notificationFromAttention w i with
    | .error e => (.error e, t)
    | .ok d    => ((recordNotificationDelivery w d).andThen (fun d => (mirrorItems w is).map (fun ds => d :: ds))) t

def refreshNotificationMirror (w : Wire) : Call NotificationTables (List NotificationDelivery) := fun t =>
  match pendingNotificationAttention t 200 with
  | .error e   => (.error e, t)
  | .ok items  => mirrorItems w items t

/-! ## Presence -/

inductive OperatorPresenceMode
  | interactive | focus | unattended
deriving DecidableEq, Repr

def OperatorPresenceMode.name : OperatorPresenceMode → String
  | .interactive => "interactive"
  | .focus       => "focus"
  | .unattended  => "unattended"

structure OperatorPresence where
  schema : String
  operatorId : String
  mode : OperatorPresenceMode
  version : Nat
  updatedAtMs : Int
  sha256 : String
deriving DecidableEq

def OperatorPresence.json (p : OperatorPresence) : Value :=
  .obj [("schema", .str p.schema), ("operator_id", .str p.operatorId), ("mode", .str p.mode.name),
    ("version", ofNat p.version), ("updated_at_ms", ofInt p.updatedAtMs), ("sha256", .str p.sha256)]

def OperatorPresence.digest (w : Wire) (p : OperatorPresence) : Digest := w.digestJson { p with sha256 := "" }.json

def OperatorPresence.validate (w : Wire) (p : OperatorPresence) : Except StoreError Unit := do
  ensure (p.schema == "harness.operator-presence.v1" && !(p.version == 0) && decide (0 ≤ p.updatedAtMs))
    (invalidField "operator presence" "must use the v1 schema with a positive version and non-negative timestamp")
  validateIdentifier p.operatorId "operator presence id"
  validateDigest p.sha256 (p.digest w) "operator presence sha256"

def validateOperator (value : String) : Except StoreError Unit :=
  ensure (isIdentifier value) (.validation "operator id must be a bounded path-safe identifier")

def nextPresence (current : Option OperatorPresence) (operatorId : String) (mode : OperatorPresenceMode)
    (expectedVersion : Nat) (now : Int) : Except StoreError OperatorPresence :=
  match current with
  | some p => do
    ensure (p.version == expectedVersion) (.conflict ("operator presence has version " ++ toString p.version ++
      ", expected " ++ toString expectedVersion))
    return { p with mode := mode, version := p.version + 1, updatedAtMs := now, sha256 := "" }
  | none => do
    ensure (expectedVersion == 0) (.conflict
      "operator presence is not configured; creation requires expected version 0")
    return ⟨"harness.operator-presence.v1", operatorId, mode, 1, now, ""⟩

def readPresence (w : Wire) (t : Table OperatorPresence.operatorId) (operatorId : String) :
    Except StoreError (Option OperatorPresence) :=
  match t.get operatorId with
  | none => .ok none
  | some p => do
    ensure (p.validate w).isOk (.sqlite .fromSqlConversionFailure)
    return some p

def writePresence (t : Table OperatorPresence.operatorId) (expectedVersion : Nat) (p : OperatorPresence) :
    Except StoreError (Table OperatorPresence.operatorId) :=
  if expectedVersion = 0 then insertRow t p
  else do
    ensure (t.get p.operatorId).isSome (.conflict "operator presence changed during update")
    return t.update (fun r => r.operatorId == p.operatorId) (fun r => { p with operatorId := r.operatorId }) (fun _ => rfl)

def presenceBody (w : Wire) (operatorId : String) (mode : OperatorPresenceMode) (expectedVersion : Nat) (now : Int)
    (t : Table OperatorPresence.operatorId) :
    Except StoreError (OperatorPresence × Table OperatorPresence.operatorId) := do
  validateOperator operatorId
  let current ← readPresence w t operatorId
  let next ← nextPresence current operatorId mode expectedVersion now
  let p := { next with sha256 := (next.digest w).hex }
  p.validate w
  let _ ← toI64 p.version "operator presence version"
  let t ← writePresence t expectedVersion p
  return (p, t)

def setOperatorPresence (w : Wire) (operatorId : String) (mode : OperatorPresenceMode) (expectedVersion : Nat) (now : Int) :
    Call (Table OperatorPresence.operatorId) OperatorPresence :=
  transaction (presenceBody w operatorId mode expectedVersion now)

end Control
end Bildr
