import Bildr.Attention
import Bildr.Image
/-!
# AttentionRows — the rows of attention, column by column

`attention_items` keeps the state, the source and the version of an item in columns of their own beside the payload and
the payload's digest, and every statement names the columns it writes.  The columns of a stored row are those of its
payload (`rowOf`), so the calls on the rows answer what the calls on the items answer and leave the rows of their items
(`performRows_image`).
-/
namespace Bildr
namespace Control

structure AttentionRow where
  id : String
  sourceType : AttentionSourceType
  sourceId : String
  sourceRevision : Nat
  state : AttentionState
  dedupeKey : String
  acknowledgedAt : Option Int
  resolution : Option AttentionResolution
  payload : AttentionItem
  payloadSha256 : String
  version : Nat
deriving DecidableEq

structure AttentionEventRow where
  id : Nat
  attentionId : String
  sourceType : AttentionSourceType
  sourceId : String
  sourceRevision : Nat
  eventKind : AttentionEventKind
  expectedVersion : Option Nat
  resultingVersion : Nat
  payload : AttentionItem
  payloadSha256 : String

structure AttentionStore where
  items : Table AttentionRow.id
  events : Table AttentionEventRow.id
  links : Links

def attentionFromRaw (i : AttentionItem) : Except StoreError AttentionItem := do
  i.validate
  return i

/-- `INSERT INTO attention_events`. -/
def insertAttentionEventRow (t : Table AttentionEventRow.id) (i : AttentionItem) (kind : AttentionEventKind)
    (expectedVersion : Option Nat) (payloadSha256 : String) : Except StoreError (Table AttentionEventRow.id) := do
  require (!t.rows.any (fun e => decide (e.sourceType = i.source.sourceType) && e.sourceId == i.source.sourceId &&
    e.sourceRevision == i.source.sourceRevision && decide (e.eventKind = kind)))
  insertRow t ⟨Table.maxOf AttentionEventRow.id t.rows + 1, i.attentionId, i.source.sourceType, i.source.sourceId,
    i.source.sourceRevision, kind, expectedVersion, i.version, i, payloadSha256⟩

/-- `INSERT INTO attention_items`: neither acknowledged nor resolved. -/
def openedRow (i : AttentionItem) (payloadSha256 : String) : AttentionRow :=
  ⟨i.attentionId, i.source.sourceType, i.source.sourceId, i.source.sourceRevision, i.state, i.dedupeKey, none, none, i,
    payloadSha256, i.version⟩

def upsertRowBody (w : Wire) (item : AttentionItem) (t : AttentionStore) :
    Except StoreError (AttentionItem × AttentionStore) := do
  item.validate
  ensure item.isNew (.validation
    "a new source attention item must be open at version one without acknowledgement or resolution")
  let _ ← toI64 item.source.sourceRevision "attention source revision"
  match t.items.rows.find? (fun r => decide (r.sourceType = item.source.sourceType) &&
      r.sourceId == item.source.sourceId && r.sourceRevision == item.source.sourceRevision) with
  | some row => do
    let existing ← attentionFromRaw row.payload
    ensure (row.payload == item) (.conflict ("attention source " ++ toString item.source.sourceType.number ++ ":" ++
      item.source.sourceId ++ " revision " ++ toString item.source.sourceRevision ++ " already has a different payload"))
    let link ← attentionCorrelationLink w existing .opened
    let links ← recordCorrelationLinkInTransaction t.links link
    return (existing, { t with links := links })
  | none => do
    let active := t.items.rows.countP (fun r => decide (r.sourceType = item.source.sourceType) &&
      r.sourceId == item.source.sourceId && r.state.isActive)
    ensure (active == 0) (.conflict
      "a source revision cannot replace an active attention item; the source adapter must record a terminal authority receipt first")
    require (!t.items.rows.any (fun r => r.dedupeKey == item.dedupeKey && r.state.isActive))
    let items ← insertRow t.items (openedRow item (w.digestJson item.json).hex)
    let events ← insertAttentionEventRow t.events item .opened none (w.digestJson item.json).hex
    let link ← attentionCorrelationLink w item .opened
    let links ← recordCorrelationLinkInTransaction t.links link
    return (item, ⟨items, events, links⟩)

def readAttentionRow (t : AttentionStore) (id : String) (expectedVersion : Nat) (why : AttentionItem → String) :
    Except StoreError AttentionItem := do
  let _ ← toI64 expectedVersion "attention expected version"
  let row ← okOr (t.items.get id) (.notFound ("attention item " ++ id))
  let item ← attentionFromRaw row.payload
  let _ ← toI64 item.version "attention version"
  ensure (item.version == expectedVersion) (.conflict (why item))
  return item

/-- `UPDATE attention_items SET … WHERE id=… AND version=…`, which changes one row. -/
def updateAttentionRow (t : Table AttentionRow.id) (id : String) (expectedVersion : Nat) (why : String)
    (set : AttentionRow → AttentionRow) (hset : ∀ r, (set r).id = r.id) : Except StoreError (Table AttentionRow.id) := do
  ensure (t.rows.countP (fun r => r.id == id && r.version == expectedVersion) == 1) (.conflict why)
  return t.update (fun r => r.id == id && r.version == expectedVersion) set hset

def acknowledgeRowBody (w : Wire) (id : String) (expectedVersion : Nat) (now : Int) (t : AttentionStore) :
    Except StoreError (AttentionItem × AttentionStore) := do
  let item ← readAttentionRow t id expectedVersion (fun i => "attention item " ++ id ++ " has version " ++
    toString i.version ++ ", expected " ++ toString expectedVersion)
  item.state.validateTransition .acknowledged false
  let item := { item with state := .acknowledged, acknowledgedAtMs := some now, version := item.version + 1 }
  item.validate
  let _ ← toI64 item.version "attention version"
  let items ← updateAttentionRow t.items id expectedVersion ("attention item " ++ id ++ " changed during acknowledgement")
    (fun r => { r with state := .acknowledged, acknowledgedAt := some now, payload := item, payloadSha256 := (w.digestJson item.json).hex, version := item.version })
    (fun _ => rfl)
  let events ← insertAttentionEventRow t.events item .acknowledged (some expectedVersion) (w.digestJson item.json).hex
  let link ← attentionCorrelationLink w item .acknowledged
  let links ← recordCorrelationLinkInTransaction t.links link
  return (item, ⟨items, events, links⟩)

def resolveRowBody (w : Wire) (id : String) (expectedVersion : Nat) (nextState : AttentionState)
    (resolution : AttentionResolution) (t : AttentionStore) : Except StoreError (AttentionItem × AttentionStore) := do
  let kind ← okOr nextState.event (.validation "source attention closure requires a terminal state")
  resolution.validate
  let item ← readAttentionRow t id expectedVersion
    (fun _ => "attention item " ++ id ++ " has changed since the source adapter observed it")
  item.state.validateTransition nextState false
  let item := { item with state := nextState, resolution := some resolution, version := item.version + 1 }
  item.validate
  let _ ← toI64 item.version "attention version"
  let items ← updateAttentionRow t.items id expectedVersion ("attention item " ++ id ++ " changed during source closure")
    (fun r => { r with state := item.state, resolution := item.resolution, payload := item, payloadSha256 := (w.digestJson item.json).hex, version := item.version })
    (fun _ => rfl)
  let events ← insertAttentionEventRow t.events item kind (some expectedVersion) (w.digestJson item.json).hex
  let link ← attentionCorrelationLink w item kind
  let links ← recordCorrelationLinkInTransaction t.links link
  return (item, ⟨items, events, links⟩)

/-! ## The calls -/

inductive AttentionCall
  | upsert (item : AttentionItem)
  | acknowledge (id : String) (expectedVersion : Nat) (acknowledgedAtMs : Int)
  | resolve (id : String) (expectedVersion : Nat) (nextState : AttentionState) (resolution : AttentionResolution)

/-- `upsert_source_attention`, `acknowledge_attention`, `resolve_attention_from_source`. -/
def performRows (w : Wire) : AttentionCall → Call AttentionStore AttentionItem
  | .upsert item => transaction (upsertRowBody w item)
  | .acknowledge id v now => transaction (acknowledgeRowBody w id v now)
  | .resolve id v next resolution => transaction (resolveRowBody w id v next resolution)

def performItems (w : Wire) : AttentionCall → Call AttentionTables AttentionItem
  | .upsert item => upsertSourceAttention w item
  | .acknowledge id v now => acknowledgeAttention w id v now
  | .resolve id v next resolution => resolveAttentionFromSource w id v next resolution

def rowStep (w : Wire) (t : AttentionStore) (c : AttentionCall) : AttentionStore := (performRows w c t).2

def itemStep (w : Wire) (t : AttentionTables) (c : AttentionCall) : AttentionTables := (performItems w c t).2

/-! ## Rows of items -/

def rowOf (w : Wire) (i : AttentionItem) : AttentionRow :=
  ⟨i.attentionId, i.source.sourceType, i.source.sourceId, i.source.sourceRevision, i.state, i.dedupeKey,
    i.acknowledgedAtMs, i.resolution, i, (w.digestJson i.json).hex, i.version⟩

def eventRowOf (w : Wire) (e : AttentionEvent) : AttentionEventRow :=
  ⟨e.id, e.attentionId, e.source.sourceType, e.source.sourceId, e.source.sourceRevision, e.kind, e.expectedVersion,
    e.resultingVersion, e.payload, (w.digestJson e.payload.json).hex⟩

theorem rowOf_id (w : Wire) (i : AttentionItem) : (rowOf w i).id = i.attentionId := rfl

theorem eventRowOf_id (w : Wire) (e : AttentionEvent) : (eventRowOf w e).id = e.id := rfl

def storeOf (w : Wire) (t : AttentionTables) : AttentionStore :=
  ⟨t.items.image (rowOf w) (rowOf_id w), t.events.image (eventRowOf w) (eventRowOf_id w), t.links⟩

theorem items_storeOf (w : Wire) (t : AttentionTables) : (storeOf w t).items.rows = t.items.rows.map (rowOf w) := rfl

theorem events_storeOf (w : Wire) (t : AttentionTables) : (storeOf w t).events.rows = t.events.rows.map (eventRowOf w) :=
  rfl

theorem source_iff {s s' : AttentionSourceRef} : (decide (s.sourceType = s'.sourceType) && s.sourceId == s'.sourceId &&
    s.sourceRevision == s'.sourceRevision) = decide (s = s') := by
  cases s
  cases s'
  rw [Bool.eq_iff_iff]
  simp [and_assoc]

theorem openedRow_eq {w : Wire} {i : AttentionItem} (h : i.isNew = true) :
    openedRow i (w.digestJson i.json).hex = rowOf w i := by
  unfold AttentionItem.isNew at h
  simp only [Bool.and_eq_true, Option.isNone_iff_eq_none] at h
  unfold openedRow rowOf
  rw [h.1.2, h.2]

section Statements
variable (w : Wire) (t : AttentionTables)

theorem insertEvent_image (i : AttentionItem) (kind : AttentionEventKind) (v : Option Nat) :
    insertAttentionEventRow (storeOf w t).events i kind v (w.digestJson i.json).hex =
      (insertAttentionEvent t.events i kind v).map (Table.image (eventRowOf w) (eventRowOf_id w)) := by
  have hmax : Table.maxOf AttentionEventRow.id (storeOf w t).events.rows = Table.maxOf AttentionEvent.id t.events.rows := by
    unfold Table.maxOf
    rw [events_storeOf, List.foldl_map]
    rfl
  have hany : (storeOf w t).events.rows.any (fun e => decide (e.sourceType = i.source.sourceType) &&
      e.sourceId == i.source.sourceId && e.sourceRevision == i.source.sourceRevision && decide (e.eventKind = kind)) =
      t.events.rows.any (fun e => decide (e.source = i.source) && decide (e.kind = kind)) := by
    rw [events_storeOf, List.any_map]
    congr 1
    funext e
    rw [← source_iff]
    rfl
  unfold insertAttentionEventRow insertAttentionEvent
  rw [hmax, hany]
  cases require (!t.events.rows.any (fun e => decide (e.source = i.source) && decide (e.kind = kind))) with
  | error e => rfl
  | ok u =>
    exact Table.insertRow_image (eventRowOf w) (eventRowOf_id w) t.events
      ⟨Table.maxOf AttentionEvent.id t.events.rows + 1, i.attentionId, i.source, kind, v, i.version, i⟩

theorem map_bind {α β γ : Type} {x : Except StoreError α} {f : α → Except StoreError β} {f' : α → Except StoreError γ}
    {g : β → γ} (h : ∀ a, f' a = (f a).map g) : (x >>= f') = (x >>= f).map g := by
  cases x with
  | error e => rfl
  | ok a => exact h a

theorem map_bind_image {α α' β γ : Type} {x : Except StoreError α} {k : α → α'} {f : α → Except StoreError β}
    {f' : α' → Except StoreError γ} {g : β → γ} (h : ∀ a, f' (k a) = (f a).map g) :
    (x.map k >>= f') = (x >>= f).map g := by
  cases x with
  | error e => rfl
  | ok a => exact h a

def rowResult (q : AttentionItem × AttentionTables) : AttentionItem × AttentionStore := (q.1, storeOf w q.2)

theorem upsert_image (item : AttentionItem) :
    upsertRowBody w item (storeOf w t) = (upsertBody w item t).map (rowResult w) := by
  have hfind : (storeOf w t).items.rows.find? (fun r => decide (r.sourceType = item.source.sourceType) &&
      r.sourceId == item.source.sourceId && r.sourceRevision == item.source.sourceRevision) =
      (t.items.rows.find? (fun i => decide (i.source = item.source))).map (rowOf w) := by
    rw [items_storeOf, List.find?_map]
    congr 2
    funext i
    rw [← source_iff]
    rfl
  have hactive : ((storeOf w t).items.rows.countP (fun r => decide (r.sourceType = item.source.sourceType) &&
      r.sourceId == item.source.sourceId && r.state.isActive) == 0) = !sourceActive t item.source := by
    rw [items_storeOf, List.countP_map, Bool.eq_iff_iff, beq_iff_eq, List.countP_eq_zero, Bool.not_eq_true']
    unfold sourceActive
    rw [List.any_eq_false]
    rfl
  have hdedupe : (storeOf w t).items.rows.any (fun r => r.dedupeKey == item.dedupeKey && r.state.isActive) =
      dedupeActive t item.dedupeKey := by
    unfold dedupeActive
    rw [items_storeOf, List.any_map]
    rfl
  unfold upsertRowBody upsertBody
  rw [hfind]
  refine map_bind (fun _ => ?_)
  by_cases hnew : item.isNew = true
  swap
  · rw [Bool.not_eq_true] at hnew
    rw [hnew]
    rfl
  rw [hnew]
  refine map_bind (fun _ => map_bind (fun _ => ?_))
  cases hf : t.items.rows.find? (fun i => decide (i.source = item.source)) with
  | some existing =>
    unfold attentionFromRaw
    simp only [Option.map_some, bind_assoc, pure_ok, ok_bind]
    refine map_bind (fun _ => ?_)
    exact map_bind (fun _ => map_bind (fun link => map_bind (fun links => rfl)))
  | none =>
    simp only [Option.map_none, hactive, hdedupe, openedRow_eq hnew]
    refine map_bind (fun _ => map_bind (fun _ => ?_))
    rw [show insertRow (storeOf w t).items (rowOf w item) = (insertRow t.items item).map (Table.image (rowOf w) (rowOf_id w))
      from Table.insertRow_image (rowOf w) (rowOf_id w) t.items item, insertEvent_image]
    refine map_bind_image (fun items => map_bind_image (fun events => ?_))
    exact map_bind (fun link => map_bind (fun links => rfl))

theorem read_image (id : String) (v : Nat) (why : AttentionItem → String) :
    readAttentionRow (storeOf w t) id v why = readAttention t id v why := by
  have hget : (storeOf w t).items.get id = (t.items.get id).map (rowOf w) :=
    Table.get_image (rowOf w) (rowOf_id w) t.items id
  unfold readAttentionRow readAttention
  rw [hget]
  cases t.items.get id with
  | none => rfl
  | some i =>
    unfold attentionFromRaw
    simp only [Option.map_some, okOr, bind_assoc]
    rfl

theorem update_row_image (next : AttentionItem) {i : AttentionItem} {v : Nat} {why : String} {set : AttentionRow → AttentionRow}
    (hset : ∀ r, (set r).id = r.id) (hget : t.items.get next.attentionId = some i) (hv : i.version = v)
    (hrow : set (rowOf w i) = rowOf w next) :
    updateAttentionRow (storeOf w t).items next.attentionId v why set hset =
      .ok ((t.items.update (fun r => r.attentionId == next.attentionId) (fun r => { next with attentionId := r.attentionId })
        (fun _ => rfl)).image (rowOf w) (rowOf_id w)) := by
  have hone : ∀ r ∈ t.items.rows, r.attentionId = next.attentionId → r = i := by
    intro r hr hid
    have : some r = some i := by rw [← hget, ← hid, Table.get_of_mem hr]
    exact Option.some.inj this
  have hp : ∀ r ∈ t.items.rows, ((rowOf w r).id == next.attentionId && (rowOf w r).version == v) = true ↔
      r.attentionId = next.attentionId := by
    intro r hr
    rw [Bool.and_eq_true, beq_iff_eq, beq_iff_eq]
    refine ⟨fun h => h.1, fun hid => ⟨hid, ?_⟩⟩
    rw [hone r hr hid]
    exact hv
  unfold updateAttentionRow
  have hcount : (storeOf w t).items.rows.countP (fun r => r.id == next.attentionId && r.version == v) = 1 :=
    Table.countP_image (rowOf w) (rowOf_id w) t.items next.attentionId hget hp
  rw [hcount]
  simp only [beq_self_eq_true, ensure_true, ok_bind, pure_ok]
  congr 1
  refine Table.update_image (rowOf w) (rowOf_id w) t.items next.attentionId
    (fun r => { next with attentionId := r.attentionId }) (fun _ => rfl) hset hp (fun r hr => ?_)
  rw [Option.some.inj (hr.symm.trans hget), hrow]
  have hid := Table.key_of_get hget
  rw [hid]

end Statements

theorem readAttention_stored {t : AttentionTables} {id : String} {v : Nat} {why : AttentionItem → String}
    {i : AttentionItem} (h : readAttention t id v why = .ok i) : t.items.get id = some i ∧ i.version = v := by
  unfold readAttention at h
  obtain ⟨-, -, h⟩ := bind_ok h
  obtain ⟨item, hitem, h⟩ := bind_ok h
  obtain ⟨-, h⟩ := bind_unit_ok.1 h
  obtain ⟨-, -, h⟩ := bind_ok h
  obtain ⟨hversion, h⟩ := ensure_bind_ok.1 h
  cases h
  exact ⟨okOr_ok hitem, by simpa using hversion⟩

section Changes
variable (w : Wire) (t : AttentionTables)

theorem acknowledge_image (id : String) (v : Nat) (now : Int) :
    acknowledgeRowBody w id v now (storeOf w t) = (acknowledgeBody w id v now t).map (rowResult w) := by
  unfold acknowledgeRowBody acknowledgeBody
  rw [read_image]
  cases hread : readAttention t id v (fun i => "attention item " ++ id ++ " has version " ++ toString i.version ++
      ", expected " ++ toString v) with
  | error e => rfl
  | ok i =>
    obtain ⟨hget, hversion⟩ := readAttention_stored hread
    have hid := Table.key_of_get hget
    subst hid
    simp only [ok_bind]
    refine map_bind (fun _ => ?_)
    unfold writeAttention
    refine map_bind (fun _ => map_bind (fun _ => ?_))
    rw [update_row_image w t { i with
      state := .acknowledged, acknowledgedAtMs := some now, version := i.version + 1 } _ hget hversion rfl, ok_bind,
      insertEvent_image]
    refine map_bind_image (fun events => ?_)
    exact map_bind (fun link => map_bind (fun links => rfl))

theorem resolve_image (id : String) (v : Nat) (next : AttentionState) (r : AttentionResolution) :
    resolveRowBody w id v next r (storeOf w t) = (resolveBody w id v next r t).map (rowResult w) := by
  unfold resolveRowBody resolveBody
  refine map_bind (fun kind => map_bind (fun _ => ?_))
  rw [read_image]
  cases hread : readAttention t id v
      (fun _ => "attention item " ++ id ++ " has changed since the source adapter observed it") with
  | error e => rfl
  | ok i =>
    obtain ⟨hget, hversion⟩ := readAttention_stored hread
    have hid := Table.key_of_get hget
    subst hid
    simp only [ok_bind]
    refine map_bind (fun _ => ?_)
    unfold writeAttention
    refine map_bind (fun _ => map_bind (fun _ => ?_))
    rw [update_row_image w t { i with
      state := next, resolution := some r, version := i.version + 1 } _ hget hversion rfl, ok_bind, insertEvent_image]
    refine map_bind_image (fun events => ?_)
    exact map_bind (fun link => map_bind (fun links => rfl))

/-- **A call on the rows** answers what the call on the items answers, and leaves the rows of its items. -/
theorem performRows_image (c : AttentionCall) :
    performRows w c (storeOf w t) = ((performItems w c t).1, storeOf w (performItems w c t).2) := by
  cases c with
  | upsert item => exact transaction_image (storeOf w) (upsert_image w t item)
  | acknowledge id v now => exact transaction_image (storeOf w) (acknowledge_image w t id v now)
  | resolve id v next r => exact transaction_image (storeOf w) (resolve_image w t id v next r)

theorem rowRun_image (calls : List AttentionCall) :
    Trace.run (rowStep w) (storeOf w t) calls = storeOf w (Trace.run (itemStep w) t calls) := by
  induction calls generalizing t with
  | nil => rfl
  | cons c calls ih =>
    rw [Trace.run_cons, Trace.run_cons, ← ih]
    unfold rowStep itemStep
    rw [performRows_image]

end Changes

end Control
end Bildr
