import Bildr.AttentionSteps
import Bildr.Notifications
import Bildr.ProgressProjection
/-!
# NotificationMirror — what passes of the mirror leave

A revision of an item is an event of it (`Revision`): an id and a version name one content.  A pass reads a page of the
revisions that no delivery claims and then records one delivery after another, each in a transaction of its own, so passes
overlap with each other and with changes of the items.  The ids of a delivery are made of the item's id and version; they
are never shared, but they are longer than the item's id, and an item with a long id or a negative time is refused by every
pass that meets it (`notification_iff`).
-/
namespace Bildr
namespace Control

open Improvement (isSafeOperatorControlIdentifier)
open Trace (run Along)

/-! ## Revisions -/

def Revision (t : AttentionTables) (i : AttentionItem) : Prop := ∃ e ∈ t.events.rows, e.payload = i

/-- An item is its last revision, and an id and a version name one revision. -/
structure Revisions (t : AttentionTables) : Prop where
  valid : ∀ i ∈ t.items.rows, i.validate = .ok ()
  safe : ∀ i ∈ t.items.rows, isSafeOperatorControlIdentifier i.attentionId = true
  current : ∀ i ∈ t.items.rows, Revision t i
  owned : ∀ r, Revision t r → ∃ i ∈ t.items.rows, i.attentionId = r.attentionId ∧ r.version ≤ i.version
  single : ∀ r r', Revision t r → Revision t r' → r.attentionId = r'.attentionId → r.version = r'.version → r = r'
  links : Sound t.links

theorem revisions_empty {links : Links} (hs : Sound links) : Revisions ⟨∅, ∅, links⟩ where
  valid := fun _ hi => by cases hi
  safe := fun _ hi => by cases hi
  current := fun _ hi => by cases hi
  owned := fun _ ⟨_, he, _⟩ => by cases he
  single := fun _ _ ⟨_, he, _⟩ => by cases he
  links := hs

/-- What a call does to items, revisions and links: nothing to the first two, or one revision more. -/
inductive Revises (t t' : AttentionTables) : Prop
  | same (items : t'.items = t.items) (events : t'.events = t.events) (links : t.links.rows <+: t'.links.rows)
      (sound : Sound t.links → Sound t'.links)
  | opened (i : AttentionItem) (fresh : t.items.get i.attentionId = none) (items : t'.items.rows = t.items.rows ++ [i])
      (events : ∀ r, Revision t' r ↔ Revision t r ∨ r = i) (valid : i.validate = .ok ())
      (safe : isSafeOperatorControlIdentifier i.attentionId = true) (links : t.links.rows <+: t'.links.rows)
      (sound : Sound t.links → Sound t'.links)
  | changed (i next : AttentionItem) (stored : t.items.get next.attentionId = some i) (version : next.version = i.version + 1)
      (items : ∀ j, j ∈ t'.items.rows ↔ j = next ∨ j ∈ t.items.rows ∧ j.attentionId ≠ next.attentionId)
      (events : ∀ r, Revision t' r ↔ Revision t r ∨ r = next) (valid : next.validate = .ok ())
      (links : t.links.rows <+: t'.links.rows) (sound : Sound t.links → Sound t'.links)

theorem Revises.refl (t : AttentionTables) : Revises t t := .same rfl rfl List.prefix_rfl id

theorem Revises.links {t t' : AttentionTables} (h : Revises t t') :
    t.links.rows <+: t'.links.rows ∧ (Sound t.links → Sound t'.links) := by
  cases h with
  | same _ _ hl hs => exact ⟨hl, hs⟩
  | opened i _ _ _ _ _ hl hs => exact ⟨hl, hs⟩
  | changed i next _ _ _ _ _ hl hs => exact ⟨hl, hs⟩

theorem Revises.revision {t t' : AttentionTables} (h : Revises t t') {r : AttentionItem} (hr : Revision t r) :
    Revision t' r := by
  cases h with
  | same _ he _ _ =>
    unfold Revision
    rw [he]
    exact hr
  | opened i _ _ he _ _ _ _ => exact (he r).2 (Or.inl hr)
  | changed i next _ _ _ he _ _ _ => exact (he r).2 (Or.inl hr)

theorem Revisions.step {t t' : AttentionTables} (h : Revisions t) (hstep : Revises t t') : Revisions t' := by
  cases hstep with
  | same hi he hl hs =>
    have hrev : ∀ r, Revision t' r ↔ Revision t r := fun r => by
      unfold Revision
      rw [he]
    refine ⟨hi ▸ h.valid, hi ▸ h.safe, fun i hm => (hrev i).2 (h.current i (hi ▸ hm)), fun r hr => ?_,
      fun r r' hr hr' => h.single r r' ((hrev r).1 hr) ((hrev r').1 hr'), hs h.links⟩
    rw [hi]
    exact h.owned r ((hrev r).1 hr)
  | opened i hfresh hi he hvalid hsafe hl hs =>
    have hnew : ∀ r, Revision t r → r.attentionId ≠ i.attentionId := by
      intro r hr heq
      obtain ⟨j, hj, hid, -⟩ := h.owned r hr
      exact Table.get_none.1 hfresh j hj (hid.trans heq)
    refine ⟨fun j hj => ?_, fun j hj => ?_, fun j hj => ?_, fun r hr => ?_, fun r r' hr hr' hid hv => ?_, hs h.links⟩
    · rw [hi, List.mem_append, List.mem_singleton] at hj
      rcases hj with hj | rfl
      · exact h.valid j hj
      · exact hvalid
    · rw [hi, List.mem_append, List.mem_singleton] at hj
      rcases hj with hj | rfl
      · exact h.safe j hj
      · exact hsafe
    · rw [hi, List.mem_append, List.mem_singleton] at hj
      rcases hj with hj | rfl
      · exact (he j).2 (Or.inl (h.current j hj))
      · exact (he j).2 (Or.inr rfl)
    · rw [hi]
      rcases (he r).1 hr with hr | rfl
      · obtain ⟨j, hj, hid⟩ := h.owned r hr
        exact ⟨j, List.mem_append_left _ hj, hid⟩
      · exact ⟨r, by simp, rfl, le_rfl⟩
    · rcases (he r).1 hr with hr | rfl
      · rcases (he r').1 hr' with hr' | rfl
        · exact h.single r r' hr hr' hid hv
        · exact absurd hid (hnew r hr)
      · rcases (he r').1 hr' with hr' | rfl
        · exact absurd hid.symm (hnew r' hr')
        · rfl
  | changed i next hstored hversion hi he hvalid hl hs =>
    obtain ⟨hmem, hsame⟩ := Table.get_some.1 hstored
    have hbelow : ∀ r, Revision t r → r.attentionId = next.attentionId → r.version < next.version := by
      intro r hr heq
      obtain ⟨j, hj, hid, hle⟩ := h.owned r hr
      have : some j = some i := by rw [← hstored, ← heq, ← hid, Table.get_of_mem hj]
      cases this
      omega
    refine ⟨fun j hj => ?_, fun j hj => ?_, fun j hj => ?_, fun r hr => ?_, fun r r' hr hr' hid hv => ?_, hs h.links⟩
    · rcases (hi j).1 hj with rfl | ⟨hj, -⟩
      · exact hvalid
      · exact h.valid j hj
    · rcases (hi j).1 hj with rfl | ⟨hj, -⟩
      · rw [← hsame]
        exact h.safe i hmem
      · exact h.safe j hj
    · rcases (hi j).1 hj with rfl | ⟨hj, -⟩
      · exact (he j).2 (Or.inr rfl)
      · exact (he j).2 (Or.inl (h.current j hj))
    · rcases (he r).1 hr with hr | rfl
      · by_cases heq : r.attentionId = next.attentionId
        · exact ⟨next, (hi next).2 (Or.inl rfl), heq.symm, (hbelow r hr heq).le⟩
        · obtain ⟨j, hj, hid, hle⟩ := h.owned r hr
          exact ⟨j, (hi j).2 (Or.inr ⟨hj, fun hx => heq (hid.symm.trans hx)⟩), hid, hle⟩
      · exact ⟨r, (hi r).2 (Or.inl rfl), rfl, le_rfl⟩
    · rcases (he r).1 hr with hr | rfl
      · rcases (he r').1 hr' with hr' | rfl
        · exact h.single r r' hr hr' hid hv
        · have := hbelow r hr hid
          omega
      · rcases (he r').1 hr' with hr' | rfl
        · have := hbelow r' hr' hid.symm
          omega
        · rfl

/-! ## The calls of attention -/

theorem record_links {t t' : Links} {l : CorrelationLink} (h : recordCorrelationLinkInTransaction t l = .ok t') :
    t.rows <+: t'.rows ∧ (Sound t → Sound t') := by
  refine ⟨?_, fun hs => (record_sound hs h).1⟩
  rcases record_cases h with ⟨-, rfl⟩ | ⟨-, -, hrows⟩
  · exact List.prefix_rfl
  · exact ⟨_, hrows.symm⟩

theorem revision_insert {t u : AttentionTables} {i : AttentionItem} {kind : AttentionEventKind} {v : Option Nat}
    (h : insertAttentionEvent t.events i kind v = .ok u.events) (r : AttentionItem) :
    Revision u r ↔ Revision t r ∨ r = i := by
  unfold insertAttentionEvent require at h
  obtain ⟨-, h⟩ := ensure_bind_ok.1 h
  unfold Revision
  rw [(insertRow_ok_iff.1 h).2]
  simp only [List.mem_append, List.mem_singleton, or_and_right, exists_or, exists_eq_left]
  rw [eq_comm (a := i)]

theorem safe_of_opened {w : Wire} {t t' : Links} {i : AttentionItem} {l : CorrelationLink}
    (hl : attentionCorrelationLink w i .opened = .ok l) (h : recordCorrelationLinkInTransaction t l = .ok t') :
    isSafeOperatorControlIdentifier i.attentionId = true := by
  unfold recordCorrelationLinkInTransaction at h
  obtain ⟨hvalid, -⟩ := bind_unit_ok.1 h
  unfold attentionCorrelationLink attentionLinkOf at hl
  obtain ⟨linkId, -, hl⟩ := bind_ok hl
  cases hl
  unfold CorrelationLink.validate at hvalid
  rw [ensure_bind_ok, bind_unit_ok, bind_unit_ok, bind_unit_ok, bind_unit_ok, bind_unit_ok] at hvalid
  exact validateIdentifier_ok.1 hvalid.2.2.2.2.2.1

theorem ItemSteps.revises {w : Wire} {t t' : AttentionTables} {c : AttentionCall} (h : ItemSteps w t c t') :
    Revises t t' := by
  cases h with
  | same => exact Revises.refl t
  | retried item _ h =>
    obtain ⟨link, -, hlinks⟩ := h.link
    exact .same h.items h.events (record_links hlinks).1 (record_links hlinks).2
  | opened item _ h =>
    obtain ⟨link, hlink, hlinks⟩ := h.link
    exact .opened item h.fresh h.items (revision_insert h.events) h.new.valid (safe_of_opened hlink hlinks)
      (record_links hlinks).1 (record_links hlinks).2
  | changed _ i next _ h =>
    obtain ⟨kind, v, -, hevents⟩ := h.events
    obtain ⟨_, link, -, hlinks⟩ := h.link
    exact .changed i next h.stored h.succeeds.version h.items (revision_insert hevents) h.valid (record_links hlinks).1
      (record_links hlinks).2

theorem performItems_revises (w : Wire) (t : AttentionTables) (c : AttentionCall) : Revises t (itemStep w t c) :=
  (itemStep_steps w t c).revises

/-! ## The delivery of a revision -/

structure Deliverable (i : AttentionItem) : Prop where
  short : i.attentionId.toList.length + (toString i.version).toList.length ≤ 146
  time : 0 ≤ i.openedAtMs

def claimOf (w : Wire) (i : AttentionItem) : NotificationDelivery :=
  { deliveryOf w i with sha256 := ((deliveryOf w i).digest w).hex }

theorem revision_inj {word : String} {i j : AttentionItem}
    (h : word ++ i.attentionId ++ "-" ++ toString i.version = word ++ j.attentionId ++ "-" ++ toString j.version) :
    i.attentionId = j.attentionId ∧ i.version = j.version := by
  obtain ⟨hhead, hversion⟩ := dash_number_inj h
  refine ⟨String.toList_inj.1 ?_, hversion⟩
  have h' := congrArg String.toList hhead
  rw [String.toList_append, String.toList_append] at h'
  exact List.append_cancel_left h'

theorem deliveryId_inj {w : Wire} {i j : AttentionItem} (h : (claimOf w i).deliveryId = (claimOf w j).deliveryId) :
    i.attentionId = j.attentionId ∧ i.version = j.version := @revision_inj "notification-" i j h

theorem attentionSourceEvent_inj {i j : AttentionItem} (h : attentionSourceEvent i = attentionSourceEvent j) :
    i.attentionId = j.attentionId ∧ i.version = j.version := @revision_inj "attention-" i j h

theorem safe_revision {word : String} {i : AttentionItem} (hword : isSafeOperatorControlIdentifier word = true)
    (hid : isSafeOperatorControlIdentifier i.attentionId = true) :
    isSafeOperatorControlIdentifier (word ++ i.attentionId ++ "-" ++ toString i.version) = true ↔
      word.toList.length + i.attentionId.toList.length + 1 + (toString i.version).toList.length ≤ 160 := by
  have htail : ∀ c ∈ (i.attentionId ++ "-" ++ toString i.version).toList,
      (c.isAlphanum || ['_', '-', '.', ':'].contains c) = true := by
    intro c hc
    rw [String.toList_append, String.toList_append, List.mem_append, List.mem_append] at hc
    rcases hc with (hc | hc) | hc
    · exact (safe_iff.1 hid).2.2 c hc
    · rw [List.mem_singleton.1 (show c ∈ ['-'] from hc)]
      decide
    · exact safe_digit hc
  have hassoc : word ++ i.attentionId ++ "-" ++ toString i.version =
      word ++ (i.attentionId ++ "-" ++ toString i.version) := by
    simp only [String.append_assoc]
  rw [hassoc, safe_append_iff hword htail, String.toList_append, String.toList_append, List.length_append,
    List.length_append, show "-".toList.length = 1 from rfl]
  constructor
  · intro h
    omega
  · intro h
    omega

section Claims
variable {w : Wire} {i : AttentionItem}

theorem safe_deliveryId (hid : isSafeOperatorControlIdentifier i.attentionId = true) :
    isSafeOperatorControlIdentifier (claimOf w i).deliveryId = true ↔
      13 + i.attentionId.toList.length + 1 + (toString i.version).toList.length ≤ 160 :=
  @safe_revision "notification-" i (by decide) hid

theorem safe_sourceEventId (hid : isSafeOperatorControlIdentifier i.attentionId = true) :
    isSafeOperatorControlIdentifier (claimOf w i).sourceEventId = true ↔
      10 + i.attentionId.toList.length + 1 + (toString i.version).toList.length ≤ 160 :=
  @safe_revision "attention-" i (by decide) hid

theorem validate_claim_iff (hid : isSafeOperatorControlIdentifier i.attentionId = true) :
    (claimOf w i).validate w = .ok () ↔ Deliverable i := by
  have hchannel : isSafeOperatorControlIdentifier (claimOf w i).channel = true := by
    show isSafeOperatorControlIdentifier "in_product_mirror" = true
    decide
  have hattention : ∀ v ∈ (claimOf w i).attentionId, isSafeOperatorControlIdentifier v = true := by
    intro v hv
    cases hv
    exact hid
  have hpayload : Improvement.isLowerHex (claimOf w i).payloadSha256 64 = true := (w.digestJson i.json).isHex
  have hfirst : ((claimOf w i).schema == "harness.notification-delivery.v1" && decide (0 ≤ (claimOf w i).createdAtMs) &&
      decide ((claimOf w i).state = .pending) && (claimOf w i).channel == "in_product_mirror") = true ↔
      0 ≤ i.openedAtMs := by
    simp [claimOf, deliveryOf]
  unfold NotificationDelivery.validate
  rw [ensure_bind_ok, bind_unit_ok, bind_unit_ok, bind_unit_ok, bind_unit_ok, bind_unit_ok, validateDigest_ok,
    validateIdentifier_ok, validateIdentifier_ok, validateIdentifier_ok, validateOptional_ok, validateLowerHex_ok, hfirst,
    safe_deliveryId hid, safe_sourceEventId hid]
  constructor
  · rintro ⟨htime, hshort, -⟩
    exact ⟨by omega, htime⟩
  · rintro ⟨hshort, htime⟩
    exact ⟨htime, by omega, hattention, hchannel, by omega, hpayload, rfl⟩

/-- **An item has a delivery** exactly if its id and version are short and its time is not negative. -/
theorem notification_iff (hid : isSafeOperatorControlIdentifier i.attentionId = true) (d : NotificationDelivery) :
    notificationFromAttention w i = .ok d ↔ Deliverable i ∧ d = claimOf w i := by
  unfold notificationFromAttention
  rw [bind_unit_ok, bind_unit_ok, validateIdentifier_ok]
  change isSafeOperatorControlIdentifier (claimOf w i).deliveryId = true ∧ (claimOf w i).validate w = .ok () ∧
    Except.ok (claimOf w i) = Except.ok d ↔ _
  rw [validate_claim_iff hid, safe_deliveryId hid]
  constructor
  · rintro ⟨-, hdeliverable, heq⟩
    cases heq
    exact ⟨hdeliverable, rfl⟩
  · rintro ⟨hdeliverable, rfl⟩
    have := hdeliverable.short
    exact ⟨by omega, hdeliverable, rfl⟩

end Claims

def deliveryLink (w : Wire) (d : NotificationDelivery) : CorrelationLink :=
  ⟨"harness.correlation-link.v1", "correlation-" ++ (w.sha256 ("harness.notification-delivery.link.v1:" ++ d.deliveryId)).take 48,
    ⟨(w.sha256 ("harness.notification-delivery.trace.v1:" ++ d.deliveryId)).take 32,
      (w.sha256 ("harness.notification-delivery.span.v1:" ++ d.deliveryId)).take 16, none⟩,
    if d.attentionId.isSome then "attention" else "notification_source", d.attentionId.getD d.sourceEventId,
    "notification_delivery", d.deliveryId, "presented_as", d.createdAtMs⟩

theorem deliveryLink_eq (w : Wire) (d : NotificationDelivery) : notificationCorrelationLink w d = .ok (deliveryLink w d) :=
  derivedLink_eq w _ _ _ _ _ _ _ _ _

/-- The link of an item's delivery has a trace and an id of its own, and no digest of it is zero. -/
structure ClearClaim (w : Wire) (links : List CorrelationLink) (i : AttentionItem) : Prop where
  trace : allZero (deliveryLink w (claimOf w i)).trace.traceId = false
  span : allZero (deliveryLink w (claimOf w i)).trace.spanId = false
  alone : ∀ l ∈ links, l.trace.traceId ≠ (deliveryLink w (claimOf w i)).trace.traceId ∧
    l.linkId ≠ (deliveryLink w (claimOf w i)).linkId

/-! ## The machine -/

/-- A pass: the page it has read, what is left of it, and the refusal that ended it. -/
structure MirrorPass where
  page : List AttentionItem
  left : List AttentionItem
  refusal : Option StoreError

structure MirrorState where
  attention : AttentionTables
  deliveries : Table NotificationDelivery.deliveryId
  passes : List MirrorPass

def MirrorState.tables (s : MirrorState) : NotificationTables := ⟨s.attention.items, s.deliveries, s.attention.links⟩

/-- The tables after a call of the mirror, which leaves items and events as they are. -/
def MirrorState.put (s : MirrorState) (t : NotificationTables) : MirrorState :=
  { s with attention := { s.attention with links := t.links }, deliveries := t.deliveries }

def mirrorItem (w : Wire) (i : AttentionItem) : Call NotificationTables NotificationDelivery := fun t =>
  match notificationFromAttention w i with
  | .error e => (.error e, t)
  | .ok d    => recordNotificationDelivery w d t

/-- A change of the items, a link of another record, or a step of a pass. -/
inductive MirrorEvent
  | upsert (i : AttentionItem)
  | acknowledge (id : String) (expectedVersion : Nat) (now : Int)
  | resolve (id : String) (expectedVersion : Nat) (nextState : AttentionState) (r : AttentionResolution)
  | link (l : CorrelationLink)
  | start
  | record (k : Nat)

def startPass (s : MirrorState) : MirrorPass :=
  match pendingNotificationAttention s.tables 200 with
  | .error e => ⟨[], [], some e⟩
  | .ok page => ⟨page, page, none⟩

def recordNext (w : Wire) (s : MirrorState) (p : MirrorPass) : MirrorPass × MirrorState :=
  match p.left with
  | []      => (p, s)
  | i :: is =>
    match mirrorItem w i s.tables with
    | (.error e, t) => ({ p with left := [], refusal := some e }, s.put t)
    | (.ok _, t)    => ({ p with left := is }, s.put t)

def mirrorStep (w : Wire) (s : MirrorState) : MirrorEvent → MirrorState
  | .upsert i             => { s with attention := (upsertSourceAttention w i s.attention).2 }
  | .acknowledge id v now => { s with attention := (acknowledgeAttention w id v now s.attention).2 }
  | .resolve id v next r  => { s with attention := (resolveAttentionFromSource w id v next r s.attention).2 }
  | .link l               => { s with attention := { s.attention with links := (recordCorrelationLink l s.attention.links).2 } }
  | .start                => { s with passes := s.passes ++ [startPass s] }
  | .record k             =>
    match s.passes[k]? with
    | none   => s
    | some p => { (recordNext w s p).2 with passes := s.passes.set k (recordNext w s p).1 }

def newMirror (links : Links) : MirrorState := ⟨⟨∅, ∅, links⟩, ∅, []⟩

/-! ## One delivery -/

/-- What is kept: deliveries are those of revisions, one each, with their links; passes claim what they have passed. -/
structure Mirrors (w : Wire) (s : MirrorState) : Prop where
  revisions : Revisions s.attention
  claims : ∀ d ∈ s.deliveries.rows, ∃ i, Revision s.attention i ∧ Deliverable i ∧ d = claimOf w i
  linked : ∀ d ∈ s.deliveries.rows, deliveryLink w d ∈ s.attention.links.rows
  sources : (s.deliveries.rows.map NotificationDelivery.sourceEventId).Nodup
  unrefused : ∀ p ∈ s.passes, p.refusal = none
  left : ∀ p ∈ s.passes, ∀ i ∈ p.left, Revision s.attention i ∧ Deliverable i
  passed : ∀ p ∈ s.passes, ∀ i ∈ p.page, i ∈ p.left ∨ claimOf w i ∈ s.deliveries.rows

section Delivery
variable {w : Wire} {s : MirrorState} {i : AttentionItem}

theorem Revisions.safe_revision {t : AttentionTables} (h : Revisions t) (hi : Revision t i) :
    isSafeOperatorControlIdentifier i.attentionId = true := by
  obtain ⟨j, hj, hid, -⟩ := h.owned i hi
  rw [← hid]
  exact h.safe j hj

theorem Mirrors.claim_of_source (h : Mirrors w s) (hi : Revision s.attention i) {d : NotificationDelivery}
    (hd : d ∈ s.deliveries.rows) (hsource : d.sourceEventId = attentionSourceEvent i) : d = claimOf w i := by
  obtain ⟨j, hj, -, rfl⟩ := h.claims d hd
  obtain ⟨hid, hversion⟩ := attentionSourceEvent_inj (i := j) (j := i) hsource
  rw [h.revisions.single j i hj hi hid hversion]

theorem deliveryLink_valid (hid : isSafeOperatorControlIdentifier i.attentionId = true) (hi : Deliverable i)
    {links : List CorrelationLink} (hclear : ClearClaim w links i) : (deliveryLink w (claimOf w i)).validate = .ok () := by
  have hsafe : isSafeOperatorControlIdentifier (claimOf w i).deliveryId = true := by
    have := hi.short
    exact (safe_deliveryId hid).2 (by omega)
  have hkinds : isSafeOperatorControlIdentifier "attention" = true ∧
      isSafeOperatorControlIdentifier "notification_delivery" = true ∧
      isSafeOperatorControlIdentifier "presented_as" = true ∧ "attention" ≠ "notification_delivery" := by decide
  exact (validate_derived (deliveryLink_eq w (claimOf w i)) hkinds ⟨hid, hsafe⟩).2 ⟨hclear.trace, hclear.span⟩

/-- **A revision that is claimed is claimed again**: its row is there and nothing changes. -/
theorem mirrorItem_claimed (h : Mirrors w s) (hi : Revision s.attention i) (hdeliverable : Deliverable i)
    (hclaimed : claimOf w i ∈ s.deliveries.rows) : mirrorItem w i s.tables = (.ok (claimOf w i), s.tables) := by
  have hid := h.revisions.safe_revision hi
  have hvalid : (claimOf w i).validate w = .ok () := (validate_claim_iff hid).2 hdeliverable
  have hfind : s.tables.deliveries.rows.find? (fun r => r.sourceEventId == (claimOf w i).sourceEventId) =
      some (claimOf w i) := by
    cases hf : s.tables.deliveries.rows.find? (fun r => r.sourceEventId == (claimOf w i).sourceEventId) with
    | none => exact absurd (List.find?_eq_none.1 hf _ hclaimed) (by simp)
    | some row =>
      have hsource : row.sourceEventId = (claimOf w i).sourceEventId := by simpa using List.find?_some hf
      rw [h.claim_of_source hi (List.mem_of_find?_eq_some hf) hsource]
  have hbody : deliveryBody w (claimOf w i) s.tables = .ok (claimOf w i, s.tables) := by
    unfold deliveryBody checkedDelivery
    simp only [hvalid, deliveryLink_eq, hfind, ok_bind, beq_self_eq_true, ensure_true, Except.isOk, Except.toBool, pure_ok]
    rw [show s.tables.links = s.attention.links from rfl, record_again h.revisions.links (h.linked _ hclaimed)]
    rfl
  unfold mirrorItem recordNotificationDelivery transaction
  rw [(notification_iff hid _).2 ⟨hdeliverable, rfl⟩]
  simp only [hbody]

/-- **A revision that is not claimed yet** gets its delivery and its link. -/
theorem mirrorItem_fresh (h : Mirrors w s) (hi : Revision s.attention i) (hdeliverable : Deliverable i)
    (hfresh : claimOf w i ∉ s.deliveries.rows) (hclear : ClearClaim w s.attention.links.rows i) :
    ∃ t, mirrorItem w i s.tables = (.ok (claimOf w i), t) ∧ t.items = s.attention.items ∧
      t.deliveries.rows = s.deliveries.rows ++ [claimOf w i] ∧
      t.links.rows = s.attention.links.rows ++ [deliveryLink w (claimOf w i)] ∧ Sound t.links := by
  have hid := h.revisions.safe_revision hi
  have hvalid : (claimOf w i).validate w = .ok () := (validate_claim_iff hid).2 hdeliverable
  have hnone : s.tables.deliveries.rows.find? (fun r => r.sourceEventId == (claimOf w i).sourceEventId) = none := by
    rw [List.find?_eq_none]
    intro d hd
    simp only [beq_iff_eq]
    exact fun hsource => hfresh (h.claim_of_source hi hd hsource ▸ hd)
  have howner : (s.tables.items.get i.attentionId).isSome = true := by
    obtain ⟨j, hj, hsame, -⟩ := h.revisions.owned i hi
    exact Table.get_isSome.2 (List.mem_map.2 ⟨j, hj, hsame⟩)
  have hkey : (claimOf w i).deliveryId ∉ s.deliveries.rows.map NotificationDelivery.deliveryId := by
    intro hmem
    obtain ⟨d, hd, hsame⟩ := List.mem_map.1 hmem
    obtain ⟨j, hj, -, rfl⟩ := h.claims d hd
    obtain ⟨hsameId, hversion⟩ := deliveryId_inj hsame
    rw [h.revisions.single j i hj hi hsameId hversion] at hd
    exact hfresh hd
  obtain ⟨deliveries, hinsert⟩ := insertRow_isOk (t := s.deliveries) hkey
  obtain ⟨links, hlinks, hrows, hsound⟩ := record_alone h.revisions.links (deliveryLink_valid hid hdeliverable hclear)
    (show ':' ∉ "attention".toList ∧ ':' ∉ "notification_delivery".toList ∧ "attention" ≠ "notification_delivery" by decide)
    hclear.alone
  have hbody : deliveryBody w (claimOf w i) s.tables =
      .ok (claimOf w i, ⟨s.attention.items, deliveries, links⟩) := by
    unfold deliveryBody require
    have hall : (claimOf w i).attentionId.all (fun id => (s.tables.items.get id).isSome) = true := howner
    simp only [hvalid, deliveryLink_eq, hnone, ok_bind, hall, ensure_true]
    rw [show s.tables.deliveries = s.deliveries from rfl, hinsert, ok_bind, show s.tables.links = s.attention.links from rfl,
      hlinks]
    rfl
  refine ⟨⟨s.attention.items, deliveries, links⟩, ?_, rfl, (insertRow_ok_iff.1 hinsert).2, hrows, hsound⟩
  unfold mirrorItem recordNotificationDelivery transaction
  rw [(notification_iff hid _).2 ⟨hdeliverable, rfl⟩]
  simp only [hbody]

end Delivery

/-! ## One step -/

def mirrorPage (t : NotificationTables) : List AttentionItem :=
  ((unclaimed t).insertionSort (fun a b => pendingBefore a b = true)).take 200

/-- Every item of a page that is read has a delivery, and the link of a new delivery clashes with no other. -/
def MirrorAdmissible (w : Wire) (s : MirrorState) : MirrorEvent → Prop
  | .start    => ∀ i ∈ mirrorPage s.tables, Deliverable i
  | .record k => ∀ p, s.passes[k]? = some p → ∀ i, p.left.head? = some i → claimOf w i ∉ s.deliveries.rows →
      ClearClaim w s.attention.links.rows i
  | _         => True

section Step
variable {w : Wire} {s : MirrorState}

theorem mem_mirrorPage {t : NotificationTables} {i : AttentionItem} (h : i ∈ mirrorPage t) : i ∈ t.items.rows :=
  (List.mem_filter.1 ((List.mem_insertionSort _).1 (List.mem_of_mem_take h))).1

theorem pending_ok (h : Revisions s.attention) :
    pendingNotificationAttention s.tables 200 = .ok (mirrorPage s.tables) := by
  have hvalid : (mirrorPage s.tables).all (fun i => i.validate.isOk) = true := by
    rw [List.all_eq_true]
    intro i hi
    rw [h.valid i (mem_mirrorPage hi)]
    rfl
  exact ensure_bind_ok.2 ⟨hvalid, rfl⟩

theorem startPass_eq (h : Revisions s.attention) :
    startPass s = ⟨mirrorPage s.tables, mirrorPage s.tables, none⟩ := by
  unfold startPass
  rw [pending_ok h]

theorem step_start (h : Revisions s.attention) : mirrorStep w s .start =
    { s with passes := s.passes ++ [⟨mirrorPage s.tables, mirrorPage s.tables, none⟩] } := by
  show ({ s with passes := s.passes ++ [startPass s] } : MirrorState) = _
  rw [startPass_eq h]

theorem mirrorPage_single {t : NotificationTables} {i : AttentionItem} (hitems : t.items.rows = [i])
    (hactive : i.state.isActive = true) (hnone : t.deliveries.rows = []) : mirrorPage t = [i] := by
  unfold mirrorPage unclaimed
  rw [hitems, hnone, List.filter_cons_of_pos (by simp [hactive])]
  rfl

theorem recordNext_ok {p : MirrorPass} {i : AttentionItem} {is : List AttentionItem} (hleft : p.left = i :: is)
    {d : NotificationDelivery} {t : NotificationTables} (hcall : mirrorItem w i s.tables = (.ok d, t)) :
    recordNext w s p = (⟨p.page, is, p.refusal⟩, s.put t) := by
  simp only [recordNext, hleft, hcall]

theorem Mirrors.revise (h : Mirrors w s) {t : AttentionTables} (hstep : Revises s.attention t) :
    Mirrors w { s with attention := t } where
  revisions := h.revisions.step hstep
  claims := fun d hd => by
    obtain ⟨i, hi, hrest⟩ := h.claims d hd
    exact ⟨i, hstep.revision hi, hrest⟩
  linked := fun d hd => hstep.links.1.subset (h.linked d hd)
  sources := h.sources
  unrefused := h.unrefused
  left := fun p hp i hi => ⟨hstep.revision (h.left p hp i hi).1, (h.left p hp i hi).2⟩
  passed := h.passed

theorem Mirrors.start (h : Mirrors w s) (hpage : ∀ i ∈ mirrorPage s.tables, Deliverable i) :
    Mirrors w { s with passes := s.passes ++ [startPass s] } := by
  rw [startPass_eq h.revisions]
  refine ⟨h.revisions, h.claims, h.linked, h.sources, fun p hp => ?_, fun p hp i hi => ?_, fun p hp i hi => ?_⟩
  · rcases List.mem_append.1 hp with hp | hp
    · exact h.unrefused p hp
    · rw [List.mem_singleton.1 hp]
  · rcases List.mem_append.1 hp with hp | hp
    · exact h.left p hp i hi
    · rw [List.mem_singleton.1 hp] at hi
      exact ⟨h.revisions.current i (mem_mirrorPage hi), hpage i hi⟩
  · rcases List.mem_append.1 hp with hp | hp
    · exact h.passed p hp i hi
    · rw [List.mem_singleton.1 hp] at hi ⊢
      exact Or.inl hi

theorem Mirrors.claim (h : Mirrors w s) {i : AttentionItem} (hi : Revision s.attention i) (hdeliverable : Deliverable i)
    (hfresh : claimOf w i ∉ s.deliveries.rows) {t : NotificationTables}
    (hdeliveries : t.deliveries.rows = s.deliveries.rows ++ [claimOf w i])
    (hlinks : t.links.rows = s.attention.links.rows ++ [deliveryLink w (claimOf w i)]) (hsound : Sound t.links) :
    Mirrors w (s.put t) where
  revisions := ⟨h.revisions.valid, h.revisions.safe, h.revisions.current, h.revisions.owned, h.revisions.single, hsound⟩
  claims := fun d hd => by
    rw [show (s.put t).deliveries.rows = t.deliveries.rows from rfl, hdeliveries] at hd
    rcases List.mem_append.1 hd with hd | hd
    · exact h.claims d hd
    · exact ⟨i, hi, hdeliverable, List.mem_singleton.1 hd⟩
  linked := fun d hd => by
    rw [show (s.put t).deliveries.rows = t.deliveries.rows from rfl, hdeliveries] at hd
    rw [show (s.put t).attention.links.rows = t.links.rows from rfl, hlinks]
    rcases List.mem_append.1 hd with hd | hd
    · exact List.mem_append_left _ (h.linked d hd)
    · rw [List.mem_singleton.1 hd]
      simp
  sources := by
    rw [show (s.put t).deliveries.rows = t.deliveries.rows from rfl, hdeliveries, List.map_append]
    refine List.nodup_append'.2 ⟨h.sources, List.nodup_singleton _, ?_⟩
    rw [List.map_singleton, List.disjoint_singleton]
    intro hmem
    obtain ⟨d, hd, hsource⟩ := List.mem_map.1 hmem
    exact hfresh (h.claim_of_source hi hd hsource ▸ hd)
  unrefused := h.unrefused
  left := h.left
  passed := fun p hp j hj => by
    rw [show (s.put t).deliveries.rows = t.deliveries.rows from rfl, hdeliveries]
    exact (h.passed p hp j hj).imp_right (List.mem_append_left _)

/-- **A pass records its next item**: it is claimed, and one item fewer is left. -/
theorem recordNext_cases (h : Mirrors w s) {p : MirrorPass} (hp : p ∈ s.passes) {i : AttentionItem}
    {is : List AttentionItem} (hleft : p.left = i :: is)
    (hclear : claimOf w i ∉ s.deliveries.rows → ClearClaim w s.attention.links.rows i) :
    ∃ t, recordNext w s p = (⟨p.page, is, p.refusal⟩, s.put t) ∧ t.items = s.attention.items ∧ Mirrors w (s.put t) ∧
      s.deliveries.rows <+: t.deliveries.rows ∧ claimOf w i ∈ t.deliveries.rows := by
  obtain ⟨hi, hdeliverable⟩ := h.left p hp i (by rw [hleft]; exact List.mem_cons_self)
  by_cases hclaimed : claimOf w i ∈ s.deliveries.rows
  · exact ⟨s.tables, recordNext_ok hleft (mirrorItem_claimed h hi hdeliverable hclaimed), rfl, h, List.prefix_rfl, hclaimed⟩
  · obtain ⟨t, hcall, hitems, hdeliveries, hlinks, hsound⟩ :=
      mirrorItem_fresh h hi hdeliverable hclaimed (hclear hclaimed)
    refine ⟨t, recordNext_ok hleft hcall, hitems, h.claim hi hdeliverable hclaimed hdeliveries hlinks hsound,
      ⟨_, hdeliveries.symm⟩, ?_⟩
    rw [hdeliveries]
    simp

theorem step_record {k : Nat} {p : MirrorPass} (hp : s.passes[k]? = some p) : mirrorStep w s (.record k) =
    ⟨(recordNext w s p).2.attention, (recordNext w s p).2.deliveries, s.passes.set k (recordNext w s p).1⟩ := by
  simp only [mirrorStep, hp]

theorem step_record_ended {k : Nat} {p : MirrorPass} (hp : s.passes[k]? = some p) (hleft : p.left = []) :
    mirrorStep w s (.record k) = s := by
  have hget := (List.getElem?_eq_some_iff.1 hp).2
  have hsame : recordNext w s p = (p, s) := by simp only [recordNext, hleft]
  rw [step_record hp, hsame, ← hget, List.set_getElem_self]

/-- **What a step of a pass does**: nothing, if nothing is left; else its next item is claimed. -/
theorem step_record_cases (h : Mirrors w s) {k : Nat} (hk : MirrorAdmissible w s (.record k)) :
    mirrorStep w s (.record k) = s ∨
    ∃ p i is t, s.passes[k]? = some p ∧ p.left = i :: is ∧
      mirrorStep w s (.record k) = { s.put t with passes := s.passes.set k ⟨p.page, is, p.refusal⟩ } ∧
      Mirrors w (s.put t) ∧ s.deliveries.rows <+: t.deliveries.rows ∧ claimOf w i ∈ t.deliveries.rows := by
  cases hp : s.passes[k]? with
  | none =>
    left
    simp only [mirrorStep, hp]
  | some p =>
    cases hleft : p.left with
    | nil =>
      exact Or.inl (step_record_ended hp hleft)
    | cons i is =>
      obtain ⟨t, hnext, -, hput, hprefix, hclaimed⟩ := recordNext_cases h (List.mem_of_getElem? hp) hleft
        (hk p hp i (by rw [hleft]; rfl))
      refine Or.inr ⟨p, i, is, t, rfl, hleft, ?_, hput, hprefix, hclaimed⟩
      rw [step_record hp, hnext]

theorem Mirrors.record (h : Mirrors w s) {k : Nat} (hk : MirrorAdmissible w s (.record k)) :
    Mirrors w (mirrorStep w s (.record k)) := by
  rcases step_record_cases h hk with hsame | ⟨p, i, is, t, hp, hleft, hstep, hput, -, hclaimed⟩
  · rw [hsame]
    exact h
  · have hmem : p ∈ s.passes := List.mem_of_getElem? hp
    rw [hstep]
    refine ⟨hput.revisions, hput.claims, hput.linked, hput.sources, fun q hq => ?_, fun q hq j hj => ?_,
      fun q hq j hj => ?_⟩
    · rcases List.mem_or_eq_of_mem_set hq with hq | rfl
      · exact h.unrefused q hq
      · exact h.unrefused p hmem
    · rcases List.mem_or_eq_of_mem_set hq with hq | rfl
      · exact hput.left q hq j hj
      · exact hput.left p hmem j (by rw [hleft]; exact List.mem_cons_of_mem i hj)
    · rcases List.mem_or_eq_of_mem_set hq with hq | rfl
      · exact hput.passed q hq j hj
      · rcases hput.passed p hmem j hj with hj | hj
        · rw [hleft] at hj
          rcases List.mem_cons.1 hj with rfl | hj
          · exact Or.inr hclaimed
          · exact Or.inl hj
        · exact Or.inr hj

theorem link_revises (l : CorrelationLink) (t : AttentionTables) :
    Revises t { t with links := (recordCorrelationLink l t.links).2 } := by
  unfold recordCorrelationLink
  cases l.validate with
  | error e => exact Revises.refl t
  | ok u =>
    refine transaction_after (P := fun links : Links => Revises t { t with links := links }) (Revises.refl t)
      (fun a links hb => ?_)
    obtain ⟨links', hrecord, hb⟩ := bind_ok hb
    cases hb
    exact .same rfl rfl (record_links hrecord).1 (record_links hrecord).2

theorem Mirrors.step (h : Mirrors w s) {e : MirrorEvent} (he : MirrorAdmissible w s e) : Mirrors w (mirrorStep w s e) := by
  cases e with
  | upsert i => exact h.revise (performItems_revises w s.attention (.upsert i))
  | acknowledge id v now => exact h.revise (performItems_revises w s.attention (.acknowledge id v now))
  | resolve id v next r => exact h.revise (performItems_revises w s.attention (.resolve id v next r))
  | link l => exact h.revise (link_revises l s.attention)
  | start => exact h.start he
  | record k => exact h.record he

theorem mirrors_new {links : Links} (hs : Sound links) : Mirrors w (newMirror links) where
  revisions := revisions_empty hs
  claims := fun _ hd => by cases hd
  linked := fun _ hd => by cases hd
  sources := List.nodup_nil
  unrefused := fun _ hp => by cases hp
  left := fun _ hp => by cases hp
  passed := fun _ hp => by cases hp

end Step

/-! ## Passes one after another -/

def MirrorEvent.quiet : MirrorEvent → Bool
  | .link _   => true
  | .start    => true
  | .record _ => true
  | _         => false

/-- `n` passes, each started after the one before it had nothing left; other passes and links go on in between. -/
inductive Rounds (w : Wire) (s : MirrorState) : Nat → MirrorState → Prop
  | none : Rounds w s 0 s
  | wait {n : Nat} {t : MirrorState} (e : MirrorEvent) (before : Rounds w s n t) (quiet : e.quiet = true)
      (fair : MirrorAdmissible w t e) : Rounds w s n (mirrorStep w t e)
  | pass {n : Nat} {t : MirrorState} (es : List MirrorEvent) (p : MirrorPass) (before : Rounds w s n t)
      (quiet : ∀ e ∈ es, e.quiet = true) (fair : Along (mirrorStep w) (MirrorAdmissible w) t (.start :: es))
      (own : (run (mirrorStep w) t (.start :: es)).passes[t.passes.length]? = some p) (done : p.left = []) :
      Rounds w s (n + 1) (run (mirrorStep w) t (.start :: es))

/-- What quiet events leave: the items, the deliveries there were, and the pages of the passes. -/
structure Quietly (s t : MirrorState) : Prop where
  items : t.attention.items = s.attention.items
  deliveries : s.deliveries.rows ⊆ t.deliveries.rows
  pages : ∀ {k : Nat} {p : MirrorPass}, s.passes[k]? = some p → ∃ q, t.passes[k]? = some q ∧ q.page = p.page

theorem Quietly.refl (s : MirrorState) : Quietly s s := ⟨rfl, List.Subset.refl _, fun h => ⟨_, h, rfl⟩⟩

theorem Quietly.trans {s t u : MirrorState} (h : Quietly s t) (h' : Quietly t u) : Quietly s u where
  items := h'.items.trans h.items
  deliveries := List.Subset.trans h.deliveries h'.deliveries
  pages := fun hp => by
    obtain ⟨q, hq, hpage⟩ := h.pages hp
    obtain ⟨r, hr, hpage'⟩ := h'.pages hq
    exact ⟨r, hr, hpage'.trans hpage⟩

section Rounds
variable {w : Wire} {s : MirrorState}

theorem quietly_step (h : Mirrors w s) {e : MirrorEvent} (hquiet : e.quiet = true) (he : MirrorAdmissible w s e) :
    Quietly s (mirrorStep w s e) := by
  cases e with
  | upsert i => cases hquiet
  | acknowledge id v now => cases hquiet
  | resolve id v next r => cases hquiet
  | link l => exact ⟨rfl, List.Subset.refl _, fun hp => ⟨_, hp, rfl⟩⟩
  | start =>
    refine ⟨rfl, List.Subset.refl _, fun {k p} hp => ⟨p, ?_, rfl⟩⟩
    exact List.getElem?_append_left (List.getElem?_eq_some_iff.1 hp).1 ▸ hp
  | record k =>
    rcases step_record_cases h he with hsame | ⟨p, i, is, t, hp, -, hstep, -, hprefix, -⟩
    · rw [hsame]
      exact Quietly.refl s
    · rw [hstep]
      refine ⟨rfl, hprefix.subset, fun {j q} hq => ?_⟩
      have hlt := (List.getElem?_eq_some_iff.1 hq).1
      by_cases hj : k = j
      · subst hj
        have hpq : p = q := Option.some.inj (hp.symm.trans hq)
        exact ⟨_, List.getElem?_set_self hlt, by rw [hpq]⟩
      · exact ⟨q, by rw [← hq]; exact List.getElem?_set_ne hj, rfl⟩

theorem quietly_run : ∀ {es : List MirrorEvent} {s : MirrorState}, Mirrors w s → (∀ e ∈ es, e.quiet = true) →
    Along (mirrorStep w) (MirrorAdmissible w) s es →
    Mirrors w (run (mirrorStep w) s es) ∧ Quietly s (run (mirrorStep w) s es)
  | [], s, h, _, _ => ⟨h, Quietly.refl s⟩
  | e :: es, s, h, hquiet, hes => by
    have hfirst := quietly_step h (hquiet e List.mem_cons_self) hes.1
    obtain ⟨hkept, hrest⟩ := quietly_run (h.step hes.1) (fun e' he' => hquiet e' (List.mem_cons_of_mem e he')) hes.2
    exact ⟨hkept, hfirst.trans hrest⟩

def pendingCount (s : MirrorState) : Nat := (unclaimed s.tables).length

theorem mem_unclaimed {t : NotificationTables} {i : AttentionItem} :
    i ∈ unclaimed t ↔ i ∈ t.items.rows ∧ i.state.isActive = true ∧
      ∀ d ∈ t.deliveries.rows, d.sourceEventId ≠ attentionSourceEvent i := by
  simp [unclaimed]

theorem unclaimed_nodup (s : MirrorState) : (unclaimed s.tables).Nodup :=
  (List.Nodup.of_map _ s.attention.items.nodup).filter _

theorem unclaimed_later {t : MirrorState} (h : Quietly s t) : unclaimed t.tables ⊆ unclaimed s.tables := by
  intro i hi
  obtain ⟨hmem, hactive, hnone⟩ := mem_unclaimed.1 hi
  have hsame : i ∈ s.attention.items.rows := h.items ▸ (show i ∈ t.attention.items.rows from hmem)
  exact mem_unclaimed.2 ⟨hsame, hactive, fun d hd => hnone d (h.deliveries hd)⟩

theorem pendingCount_later {t : MirrorState} (h : Quietly s t) : pendingCount t ≤ pendingCount s :=
  (List.subperm_of_subset (unclaimed_nodup t) (unclaimed_later h)).length_le

theorem pendingCount_page {t : MirrorState} (h : Quietly s t)
    (hpage : ∀ i ∈ mirrorPage s.tables, i ∉ unclaimed t.tables) : pendingCount t ≤ pendingCount s - 200 := by
  have hbeyond : unclaimed t.tables ⊆
      ((unclaimed s.tables).insertionSort (fun a b => pendingBefore a b = true)).drop 200 := by
    intro i hi
    have hmem := (List.mem_insertionSort (r := fun a b => pendingBefore a b = true)).2 (unclaimed_later h hi)
    rw [← List.take_append_drop 200 ((unclaimed s.tables).insertionSort _)] at hmem
    rcases List.mem_append.1 hmem with hmem | hmem
    · exact absurd hi (hpage i hmem)
    · exact hmem
  have hle := (List.subperm_of_subset (unclaimed_nodup t) hbeyond).length_le
  rw [List.length_drop, List.length_insertionSort] at hle
  exact hle

theorem rounds_pending (h : Mirrors w s) : ∀ {n : Nat} {t : MirrorState}, Rounds w s n t →
    Mirrors w t ∧ Quietly s t ∧ pendingCount t ≤ pendingCount s - 200 * n := by
  intro n t hr
  induction hr with
  | none => exact ⟨h, Quietly.refl s, le_rfl⟩
  | @wait n t e _ hquiet hfair ih =>
    obtain ⟨hkept, hsince, hcount⟩ := ih
    have hstep := quietly_step hkept hquiet hfair
    exact ⟨hkept.step hfair, hsince.trans hstep, (pendingCount_later hstep).trans hcount⟩
  | @pass n t es p _ hquiet hfair hown hdone ih =>
    obtain ⟨hkept, hsince, hcount⟩ := ih
    have hstart := hkept.step hfair.1
    obtain ⟨hend, hrun⟩ := quietly_run hstart hquiet hfair.2
    have hpass : (mirrorStep w t .start).passes[t.passes.length]? =
        some ⟨mirrorPage t.tables, mirrorPage t.tables, none⟩ := by
      rw [step_start hkept.revisions]
      simp
    obtain ⟨q, hq, hpage⟩ := hrun.pages hpass
    rw [Trace.run_cons] at hown ⊢
    obtain rfl : p = q := Option.some.inj (hown.symm.trans hq)
    have hall := (quietly_step hkept rfl hfair.1).trans hrun
    refine ⟨hend, hsince.trans hall, (pendingCount_page hall ?_).trans (by omega)⟩
    intro i hi hun
    rcases hend.passed p (List.mem_of_getElem? hown) i (by rw [hpage]; exact hi) with hleft | hclaimed
    · rw [hdone] at hleft
      cases hleft
    · exact (mem_unclaimed.1 hun).2.2 _ hclaimed rfl

theorem covered_of_none (h : Mirrors w s) (hnone : pendingCount s = 0) {i : AttentionItem}
    (hi : i ∈ s.attention.items.rows) (hactive : i.state.isActive = true) :
    ∃ d ∈ s.deliveries.rows, notificationFromAttention w i = .ok d := by
  have hclaimed : i ∉ unclaimed s.tables := by
    rw [List.eq_nil_of_length_eq_zero hnone]
    exact List.not_mem_nil
  obtain ⟨d, hd, hsource⟩ : ∃ d ∈ s.deliveries.rows, d.sourceEventId = attentionSourceEvent i := by
    by_contra hnot
    exact hclaimed (mem_unclaimed.2 ⟨hi, hactive, fun d hd hsource => hnot ⟨d, hd, hsource⟩⟩)
  have hrevision := h.revisions.current i hi
  obtain rfl := h.claim_of_source hrevision hd hsource
  obtain ⟨j, hj, hdeliverable, heq⟩ := h.claims _ hd
  obtain ⟨hsame, hversion⟩ := deliveryId_inj (congrArg NotificationDelivery.deliveryId heq)
  rw [← h.revisions.single i j hrevision hj hsame hversion] at hdeliverable
  exact ⟨_, hd, (notification_iff (h.revisions.safe i hi) _).2 ⟨hdeliverable, rfl⟩⟩

end Rounds

/-! ## A refresh as a pass -/

def refusalOf {α : Type} : Except StoreError α → Option StoreError
  | .error e => some e
  | .ok _    => none

theorem mirrorItems_cons (w : Wire) (i : AttentionItem) (is : List AttentionItem) (t : NotificationTables) :
    mirrorItems w (i :: is) t = ((mirrorItem w i).andThen (fun d => (mirrorItems w is).map (fun ds => d :: ds))) t := by
  show (match notificationFromAttention w i with
    | .error e => (Except.error e, t)
    | .ok d    => ((recordNotificationDelivery w d).andThen (fun d => (mirrorItems w is).map (fun ds => d :: ds))) t) = _
  unfold mirrorItem Call.andThen
  cases notificationFromAttention w i with
  | error e => rfl
  | ok d => rfl

theorem mirrorItem_items (w : Wire) (i : AttentionItem) (t : NotificationTables) :
    (mirrorItem w i t).2.items = t.items := by
  unfold mirrorItem
  cases notificationFromAttention w i with
  | error e => rfl
  | ok d =>
    refine transaction_after (P := fun t' : NotificationTables => t'.items = t.items) rfl (fun a t' hb => ?_)
    unfold deliveryBody require at hb
    obtain ⟨-, hb⟩ := bind_unit_ok.1 hb
    obtain ⟨link, -, hb⟩ := bind_ok hb
    cases hf : t.deliveries.rows.find? (fun r => r.sourceEventId == d.sourceEventId) with
    | some row =>
      simp only [hf] at hb
      obtain ⟨existing, -, hb⟩ := bind_ok hb
      obtain ⟨-, hb⟩ := ensure_bind_ok.1 hb
      obtain ⟨links, -, hb⟩ := bind_ok hb
      cases hb
      rfl
    | none =>
      simp only [hf] at hb
      obtain ⟨-, hb⟩ := ensure_bind_ok.1 hb
      obtain ⟨deliveries, -, hb⟩ := bind_ok hb
      obtain ⟨links, -, hb⟩ := bind_ok hb
      cases hb
      rfl

theorem records_ended {w : Wire} {k : Nat} {s : MirrorState} {p : MirrorPass} (hp : s.passes[k]? = some p)
    (hleft : p.left = []) (n : Nat) : run (mirrorStep w) s (List.replicate n (.record k)) = s := by
  induction n with
  | zero => rfl
  | succ n ih => rw [List.replicate_succ, Trace.run_cons, step_record_ended hp hleft, ih]

theorem put_tables (w : Wire) (i : AttentionItem) (s : MirrorState) :
    (s.put (mirrorItem w i s.tables).2).tables = (mirrorItem w i s.tables).2 := by
  show (⟨s.attention.items, _, _⟩ : NotificationTables) = _
  rw [← show (mirrorItem w i s.tables).2.items = s.attention.items from mirrorItem_items w i s.tables]
  rfl

/-- **A pass that records to its end** leaves what the loop of a refresh leaves. -/
theorem records_eq {w : Wire} {k : Nat} : ∀ (n : Nat) {s : MirrorState} {p : MirrorPass}, s.passes[k]? = some p →
    p.left.length ≤ n → p.refusal = none →
    (run (mirrorStep w) s (List.replicate n (.record k))).tables = (mirrorItems w p.left s.tables).2 ∧
      (run (mirrorStep w) s (List.replicate n (.record k))).passes[k]? =
        some ⟨p.page, [], refusalOf (mirrorItems w p.left s.tables).1⟩
  | n, s, ⟨page, [], refusal⟩, hp, _, hnone => by
    cases hnone
    rw [records_ended hp rfl n]
    exact ⟨rfl, hp⟩
  | 0, s, ⟨page, i :: is, refusal⟩, hp, hn, _ => by cases hn
  | n + 1, s, ⟨page, i :: is, refusal⟩, hp, hn, hnone => by
    cases hnone
    have hlt := (List.getElem?_eq_some_iff.1 hp).1
    have hput := put_tables w i s
    rw [List.replicate_succ, Trace.run_cons, step_record hp, mirrorItems_cons]
    unfold Call.andThen
    cases hcall : mirrorItem w i s.tables with
    | mk result t =>
      rw [hcall] at hput
      cases result with
      | error e =>
        simp only [recordNext, hcall]
        rw [records_ended (List.getElem?_set_self hlt) rfl n]
        exact ⟨hput, List.getElem?_set_self hlt⟩
      | ok d =>
        simp only [recordNext, hcall]
        obtain ⟨htables, hpass⟩ := records_eq n (w := w) (k := k)
          (s := { s.put t with passes := s.passes.set k ⟨page, is, none⟩ }) (p := ⟨page, is, none⟩)
          (List.getElem?_set_self hlt) (by simpa using hn) rfl
        have hthere : MirrorState.tables { s.put t with passes := s.passes.set k ⟨page, is, none⟩ } = t := hput
        rw [hthere] at htables hpass
        refine ⟨htables.trans ?_, hpass.trans ?_⟩
        · unfold Call.map
          cases (mirrorItems w is t).1 <;> rfl
        · unfold Call.map
          cases (mirrorItems w is t).1 <;> rfl

/-- **A refresh is a pass**: its page, and then its items one after another. -/
theorem refresh_steps (w : Wire) (s : MirrorState) :
    (run (mirrorStep w) s (.start :: List.replicate 200 (.record s.passes.length))).tables =
        (refreshNotificationMirror w s.tables).2 ∧
      ((run (mirrorStep w) s (.start :: List.replicate 200 (.record s.passes.length))).passes[s.passes.length]?).bind
        MirrorPass.refusal = refusalOf (refreshNotificationMirror w s.tables).1 := by
  have hlast : (mirrorStep w s .start).passes[s.passes.length]? = some (startPass s) := by
    show (s.passes ++ [startPass s])[s.passes.length]? = _
    simp
  rw [Trace.run_cons]
  unfold refreshNotificationMirror
  cases hpage : pendingNotificationAttention s.tables 200 with
  | error e =>
    have hstart : startPass s = ⟨[], [], some e⟩ := by
      unfold startPass
      rw [hpage]
    rw [hstart] at hlast
    rw [records_ended hlast rfl, hlast]
    exact ⟨rfl, rfl⟩
  | ok page =>
    have hstart : startPass s = ⟨page, page, none⟩ := by
      unfold startPass
      rw [hpage]
    have hlength : page.length ≤ 200 := by
      unfold pendingNotificationAttention at hpage
      obtain ⟨-, hpage⟩ := ensure_bind_ok.1 hpage
      cases hpage
      exact List.length_take_le _ _
    rw [hstart] at hlast
    obtain ⟨htables, hpass⟩ := records_eq (w := w) 200 hlast hlength rfl
    exact ⟨htables, by rw [hpass]; rfl⟩

/-! ## Covered exactly once -/

def mirrorAfter (w : Wire) (links : Links) (events : List MirrorEvent) : MirrorState :=
  run (mirrorStep w) (newMirror links) events

/-- **Every current revision is delivered exactly once.**  In every run in which each page holds deliverable items only
and no link of a delivery clashes, no pass is refused, a revision has one delivery and shares none of its ids, and enough
passes one after another leave every active item with its delivery. -/
theorem mirror_covers {w : Wire} {links : Links} (hs : Sound links) {events : List MirrorEvent}
    (h : Along (mirrorStep w) (MirrorAdmissible w) (newMirror links) events) :
    (∀ p ∈ (mirrorAfter w links events).passes, p.refusal = none) ∧
    ((mirrorAfter w links events).deliveries.rows.map NotificationDelivery.sourceEventId).Nodup ∧
    (∀ d ∈ (mirrorAfter w links events).deliveries.rows, ∃ i, Revision (mirrorAfter w links events).attention i ∧
      notificationFromAttention w i = .ok d) ∧
    (∀ i j : AttentionItem, (i.attentionId, i.version) ≠ (j.attentionId, j.version) →
      attentionSourceEvent i ≠ attentionSourceEvent j ∧ (deliveryOf w i).deliveryId ≠ (deliveryOf w j).deliveryId) ∧
    ∀ n t, Rounds w (mirrorAfter w links events) n t → pendingCount (mirrorAfter w links events) ≤ 200 * n →
      ∀ i ∈ t.attention.items.rows, i.state.isActive = true →
        ∃ d ∈ t.deliveries.rows, notificationFromAttention w i = .ok d := by
  have hm : Mirrors w (mirrorAfter w links events) :=
    Trace.invariant_of_step (Mirrors w) (fun _ _ hkept he => hkept.step he) (mirrors_new hs) h
  refine ⟨hm.unrefused, hm.sources, fun d hd => ?_, fun i j hne => ⟨fun heq => ?_, fun heq => ?_⟩, ?_⟩
  · obtain ⟨i, hi, hdeliverable, rfl⟩ := hm.claims d hd
    exact ⟨i, hi, (notification_iff (hm.revisions.safe_revision hi) _).2 ⟨hdeliverable, rfl⟩⟩
  · obtain ⟨hid, hversion⟩ := attentionSourceEvent_inj heq
    exact hne (by rw [hid, hversion])
  · obtain ⟨hid, hversion⟩ := deliveryId_inj (w := w) heq
    exact hne (by rw [hid, hversion])
  · intro n t hr hn i hi hactive
    obtain ⟨hkept, -, hcount⟩ := rounds_pending hm hr
    exact covered_of_none hkept (by omega) hi hactive

def openedLink (w : Wire) (i : AttentionItem) : CorrelationLink :=
  ⟨"harness.correlation-link.v1",
    "correlation-" ++ (w.sha256 ("harness.attention.link.v1:" ++ attentionText i .opened)).take 48,
    ⟨(w.sha256 ("harness.attention.trace.v1:" ++ i.attentionId)).take 32,
      (w.sha256 ("harness.attention.span.v1:" ++ attentionText i .opened)).take 16, none⟩,
    "source_event", i.openedEventId, "attention", i.attentionId, "opens_attention", i.openedAtMs⟩

theorem openedLink_eq (w : Wire) (i : AttentionItem) : attentionCorrelationLink w i .opened = .ok (openedLink w i) := by
  unfold attentionCorrelationLink attentionLinkOf
  rw [linkIdOf_eq]
  rfl

theorem insertEvent_isOk {t : Table AttentionEvent.id} {i : AttentionItem} {kind : AttentionEventKind} {v : Option Nat}
    (h : ∀ e ∈ t.rows, e.source = i.source → e.kind ≠ kind) : ∃ events, insertAttentionEvent t i kind v = .ok events := by
  have hunique : (!t.rows.any (fun e => decide (e.source = i.source) && decide (e.kind = kind))) = true := by
    rw [Bool.not_eq_true', List.any_eq_false]
    intro e he hsame
    rw [Bool.and_eq_true, decide_eq_true_eq, decide_eq_true_eq] at hsame
    exact h e he hsame.1 hsame.2
  unfold insertAttentionEvent require
  rw [hunique, ensure_true, ok_bind]
  refine insertRow_isOk fun hmem => ?_
  obtain ⟨e, he, hid⟩ := List.mem_map.1 hmem
  have hle := Table.le_maxOf AttentionEvent.id he
  rw [hid] at hle
  exact absurd hle (Nat.not_succ_le_self _)

/-- A new item that has nothing in common with what a store holds. -/
structure FreshItem (w : Wire) (t : AttentionTables) (item : AttentionItem) : Prop where
  valid : item.validate = .ok ()
  new : item.isNew = true
  revision : fitsI64 item.source.sourceRevision = true
  ids : isSafeOperatorControlIdentifier item.openedEventId = true ∧ isSafeOperatorControlIdentifier item.attentionId = true
  digests : allZero (openedLink w item).trace.traceId = false ∧ allZero (openedLink w item).trace.spanId = false
  items : ∀ i ∈ t.items.rows, i.attentionId ≠ item.attentionId ∧ i.source.sourceId ≠ item.source.sourceId ∧
    i.dedupeKey ≠ item.dedupeKey
  events : ∀ e ∈ t.events.rows, e.source ≠ item.source
  links : ∀ l ∈ t.links.rows, l.trace.traceId ≠ (openedLink w item).trace.traceId ∧
    l.linkId ≠ (openedLink w item).linkId

theorem openedLink_valid {w : Wire} {t : AttentionTables} {item : AttentionItem} (h : FreshItem w t item) :
    (openedLink w item).validate = .ok () :=
  (validate_derived (derivedLink_eq w _ _ _ _ _ _ _ _ _) (by decide) h.ids).2 h.digests

theorem upsert_fresh {w : Wire} {t : AttentionTables} {item : AttentionItem} (hs : Sound t.links) (h : FreshItem w t item) :
    ∃ t', upsertSourceAttention w item t = (.ok item, t') ∧ t'.items.rows = t.items.rows ++ [item] ∧
      t'.links.rows = t.links.rows ++ [openedLink w item] := by
  obtain ⟨links, hlinks, hlinkRows, -⟩ := record_alone hs (openedLink_valid h)
    (show ':' ∉ "source_event".toList ∧ ':' ∉ "attention".toList ∧ "source_event" ≠ "attention" by decide) h.links
  obtain ⟨items, hitems⟩ := insertRow_isOk (t := t.items) (r := item) fun hmem => by
    obtain ⟨i, hi, hid⟩ := List.mem_map.1 hmem
    exact (h.items i hi).1 hid
  obtain ⟨events, hevents⟩ : ∃ events, insertAttentionEvent t.events item .opened none = .ok events :=
    insertEvent_isOk fun e he hsame => absurd hsame (h.events e he)
  have hfind : t.items.rows.find? (fun i => decide (i.source = item.source)) = none :=
    List.find?_eq_none.2 fun i hi hsame => (h.items i hi).2.1 (congrArg _ (of_decide_eq_true hsame))
  have hidle : sourceActive t item.source = false := List.any_eq_false.2 fun i hi hsame => by
    simp only [Bool.and_eq_true, beq_iff_eq] at hsame
    exact (h.items i hi).2.1 hsame.1.2
  have hkey : dedupeActive t item.dedupeKey = false := List.any_eq_false.2 fun i hi hsame => by
    simp only [Bool.and_eq_true, beq_iff_eq] at hsame
    exact (h.items i hi).2.2 hsame.1
  have hbody : upsertBody w item t = .ok (item, ⟨items, events, links⟩) := by
    unfold upsertBody require toI64
    simp only [h.valid, h.new, h.revision, hfind, hidle, hkey, hitems, hevents, openedLink_eq, hlinks, ok_bind, ensure_true,
      Bool.not_false, if_true, pure_ok]
  refine ⟨⟨items, events, links⟩, ?_, (insertRow_ok_iff.1 hitems).2, hlinkRows⟩
  unfold upsertSourceAttention transaction
  rw [hbody]

theorem freshItem_empty {w : Wire} {item : AttentionItem} (hvalid : item.validate = .ok ()) (hnew : item.isNew = true)
    (hrevision : fitsI64 item.source.sourceRevision = true)
    (hids : isSafeOperatorControlIdentifier item.openedEventId = true ∧
      isSafeOperatorControlIdentifier item.attentionId = true)
    (hdigests : allZero (openedLink w item).trace.traceId = false ∧ allZero (openedLink w item).trace.spanId = false) :
    FreshItem w ⟨∅, ∅, ∅⟩ item where
  valid := hvalid
  new := hnew
  revision := hrevision
  ids := hids
  digests := hdigests
  items := fun _ hi => by cases hi
  events := fun _ he => by cases he
  links := fun _ hl => by cases hl

theorem upsert_new {w : Wire} {item : AttentionItem} (h : FreshItem w ⟨∅, ∅, ∅⟩ item) :
    ∃ t, mirrorStep w (newMirror ∅) (.upsert item) = ⟨t, ∅, []⟩ ∧
      (upsertSourceAttention w item (newMirror ∅).attention).1 = .ok item ∧ t.items.rows = [item] ∧
      t.links.rows = [openedLink w item] := by
  obtain ⟨t, hcall, hitems, hlinks⟩ := upsert_fresh sound_empty h
  have hcall : upsertSourceAttention w item (newMirror ∅).attention = (.ok item, t) := hcall
  refine ⟨t, ?_, congrArg Prod.fst hcall, hitems, hlinks⟩
  simp only [mirrorStep, hcall]
  rfl

def infrastructureItem (id : String) : AttentionItem where
  schema := "harness.attention-item.v1"
  attentionId := id
  repositoryId := none
  runId := none
  taskId := none
  source := ⟨.infrastructure, "s", 1⟩
  category := .infrastructure
  severity := .high
  state := .open
  title := "Disk"
  summary := "Full"
  optionRefs := []
  evidenceRefs := []
  blockedRefs := []
  dedupeKey := "k"
  openedEventId := "o"
  openedAtMs := 5
  acknowledgedAtMs := none
  dueAtMs := none
  resurfacing := ⟨"daily", 0⟩
  resolution := none
  version := 1

theorem infrastructureItem_valid (id : String) : (infrastructureItem id).validate = .ok () := by
  show (infrastructureItem "").validate = .ok ()
  decide

/-- The digests of the links of an item with the id `n` and of its delivery. -/
def mirrorWire : Wire :=
  (tableWire
    [("harness.attention.trace.v1:n",
        .ofNat 0xdb0c18f0a7fd701be90c7e40d65c97f3172dc14e84561de9069e5bb808ee24f3),
      ("harness.attention.span.v1:n:opened:v1",
        .ofNat 0x1474c42e6f8547f69e9a5b12ac5087c7bd98413e6d31778aee6acb5d4dc384df),
      ("harness.attention.link.v1:n:opened:v1",
        .ofNat 0x60a3729aa6976c1b5ed9f871421cf0238c7ad9eba236347c2a5cea5026102e47),
      ("harness.notification-delivery.trace.v1:notification-n-1",
        .ofNat 0x3caa6a1ad06511ef26fe482f16dcc79e380794539be7a21b652716b1b00167a9),
      ("harness.notification-delivery.span.v1:notification-n-1",
        .ofNat 0xdbad10e28cce852d9380e2bff7b52149a194ebec667e186c2ef8c06f01b9a579),
      ("harness.notification-delivery.link.v1:notification-n-1",
        .ofNat 0x156376158da66f55c17b42654d1e400f409a887caf74d939caa69a7a2621ca43)]
    ["schema"]
    [([some (.str "harness.attention-item.v1")],
        .ofNat 0xff3f6338d07469a25ed8348ce77fd209fd4ca7d596da4116faa4e156f458d0f0),
      ([some (.str "harness.notification-delivery.v1")],
        .ofNat 0x21b8749f6250d17461e52951bed9f59d40298e0051a038c7d301f9a9c763db8d)]).toWire

theorem infrastructureItem_safe : isSafeOperatorControlIdentifier (infrastructureItem "n").attentionId = true := by
  decide

def openedMirror : MirrorState := mirrorStep mirrorWire (newMirror ∅) (.upsert (infrastructureItem "n"))

theorem mirrorWire_item :
    mirrorWire.sha256 ("harness.attention.trace.v1:" ++ (infrastructureItem "n").attentionId) =
      .ofNat 0xdb0c18f0a7fd701be90c7e40d65c97f3172dc14e84561de9069e5bb808ee24f3 ∧
    mirrorWire.sha256 ("harness.attention.span.v1:" ++ attentionText (infrastructureItem "n") .opened) =
      .ofNat 0x1474c42e6f8547f69e9a5b12ac5087c7bd98413e6d31778aee6acb5d4dc384df ∧
    mirrorWire.sha256 ("harness.attention.link.v1:" ++ attentionText (infrastructureItem "n") .opened) =
      .ofNat 0x60a3729aa6976c1b5ed9f871421cf0238c7ad9eba236347c2a5cea5026102e47 := ⟨rfl, rfl, rfl⟩

theorem mirrorWire_delivery :
    mirrorWire.sha256 ("harness.notification-delivery.trace.v1:" ++ (claimOf mirrorWire (infrastructureItem "n")).deliveryId) =
      .ofNat 0x3caa6a1ad06511ef26fe482f16dcc79e380794539be7a21b652716b1b00167a9 ∧
    mirrorWire.sha256 ("harness.notification-delivery.span.v1:" ++ (claimOf mirrorWire (infrastructureItem "n")).deliveryId) =
      .ofNat 0xdbad10e28cce852d9380e2bff7b52149a194ebec667e186c2ef8c06f01b9a579 ∧
    mirrorWire.sha256 ("harness.notification-delivery.link.v1:" ++ (claimOf mirrorWire (infrastructureItem "n")).deliveryId) =
      .ofNat 0x156376158da66f55c17b42654d1e400f409a887caf74d939caa69a7a2621ca43 := ⟨rfl, rfl, rfl⟩

theorem openedMirror_eq : ∃ t, openedMirror = ⟨t, ∅, []⟩ ∧ t.items.rows = [infrastructureItem "n"] ∧
    t.links.rows = [openedLink mirrorWire (infrastructureItem "n")] := by
  have hdigests : allZero (openedLink mirrorWire (infrastructureItem "n")).trace.traceId = false ∧
      allZero (openedLink mirrorWire (infrastructureItem "n")).trace.spanId = false := by
    unfold openedLink
    rw [mirrorWire_item.1, mirrorWire_item.2.1, allZero_ofNat, allZero_ofNat]
    decide
  obtain ⟨t, hopened, -, hrows⟩ := upsert_new (freshItem_empty (infrastructureItem_valid "n") rfl rfl
    ⟨by decide, infrastructureItem_safe⟩ hdigests)
  exact ⟨t, hopened, hrows⟩

theorem openedMirror_mirrors : Mirrors mirrorWire openedMirror :=
  (mirrors_new sound_empty).step (e := .upsert (infrastructureItem "n")) trivial

theorem openedMirror_page : mirrorPage openedMirror.tables = [infrastructureItem "n"] := by
  obtain ⟨t, heq, hitems, -⟩ := openedMirror_eq
  rw [heq]
  exact mirrorPage_single hitems rfl rfl

theorem openedMirror_clear : ClearClaim mirrorWire openedMirror.attention.links.rows (infrastructureItem "n") := by
  refine ⟨?_, ?_, fun l hl => ?_⟩
  · unfold deliveryLink
    rw [mirrorWire_delivery.1, allZero_ofNat]
    decide
  · unfold deliveryLink
    rw [mirrorWire_delivery.2.1, allZero_ofNat]
    decide
  · obtain ⟨t, heq, -, hlinks⟩ := openedMirror_eq
    rw [heq, show (⟨t, ∅, []⟩ : MirrorState).attention.links.rows = _ from hlinks, List.mem_singleton] at hl
    rw [hl]
    unfold deliveryLink openedLink
    rw [mirrorWire_delivery.1, mirrorWire_delivery.2.2, mirrorWire_item.1, mirrorWire_item.2.2]
    refine ⟨take_ofNat_ne (by decide), fun heq => ?_⟩
    exact take_ofNat_ne (k := 48) (by decide) (String.append_right_inj _ |>.1 heq)

def readPass : MirrorPass := ⟨[infrastructureItem "n"], [infrastructureItem "n"], none⟩

theorem started_eq : mirrorStep mirrorWire openedMirror .start = { openedMirror with passes := [readPass] } := by
  rw [step_start openedMirror_mirrors.revisions, openedMirror_page]
  obtain ⟨t, heq, -⟩ := openedMirror_eq
  rw [heq]
  rfl

/-- One item, mirrored by one pass. -/
theorem item_mirrored :
    Along (mirrorStep mirrorWire) (MirrorAdmissible mirrorWire) (newMirror ∅)
      [.upsert (infrastructureItem "n"), .start, .record 0] ∧
    claimOf mirrorWire (infrastructureItem "n") ∈
      (mirrorAfter mirrorWire ∅ [.upsert (infrastructureItem "n"), .start, .record 0]).deliveries.rows ∧
    ∀ p ∈ (mirrorAfter mirrorWire ∅ [.upsert (infrastructureItem "n"), .start, .record 0]).passes, p.refusal = none := by
  have hstart : MirrorAdmissible mirrorWire openedMirror .start := fun i hi => by
    rw [openedMirror_page, List.mem_singleton] at hi
    rw [hi]
    exact ⟨by decide, by decide⟩
  have hrecord : MirrorAdmissible mirrorWire { openedMirror with passes := [readPass] } (.record 0) := by
    intro p hp i hi _
    obtain rfl : readPass = p := Option.some.inj hp
    obtain rfl : infrastructureItem "n" = i := Option.some.inj hi
    exact openedMirror_clear
  have hstarted : Mirrors mirrorWire { openedMirror with passes := [readPass] } :=
    started_eq ▸ openedMirror_mirrors.step hstart
  obtain ⟨t, hnext, -, -, -, hclaimed⟩ := recordNext_cases hstarted (p := readPass) List.mem_cons_self rfl
    (fun _ => openedMirror_clear)
  have halong : Along (mirrorStep mirrorWire) (MirrorAdmissible mirrorWire) openedMirror [.start, .record 0] := by
    refine ⟨hstart, ?_, trivial⟩
    rw [started_eq]
    exact hrecord
  have hend : run (mirrorStep mirrorWire) openedMirror [.start, .record 0] =
      { MirrorState.put { openedMirror with passes := [readPass] } t with
        passes := [⟨readPass.page, [], readPass.refusal⟩] } := by
    rw [Trace.run_cons, started_eq, Trace.run_cons, step_record (p := readPass) rfl, hnext]
    rfl
  have hall : Along (mirrorStep mirrorWire) (MirrorAdmissible mirrorWire) (newMirror ∅)
      [.upsert (infrastructureItem "n"), .start, .record 0] := ⟨trivial, halong⟩
  refine ⟨hall, ?_, (mirror_covers sound_empty hall).1⟩
  unfold mirrorAfter
  rw [Trace.run_cons, show mirrorStep mirrorWire (newMirror ∅) (.upsert (infrastructureItem "n")) = openedMirror from rfl,
    hend]
  exact hclaimed

def longAttention : String := String.ofList (List.replicate 160 'a')

theorem longAttention_text : longAttention.toList = List.replicate 160 'a' := String.toList_ofList

theorem longAttention_safe : isSafeOperatorControlIdentifier longAttention = true := by
  have hlength := congrArg List.length longAttention_text
  rw [List.length_replicate] at hlength
  refine safe_iff.2 ⟨fun hempty => ?_, hlength.le, fun c hc => ?_⟩
  · rw [hempty] at hlength
    cases hlength
  · rw [longAttention_text] at hc
    rw [List.eq_of_mem_replicate hc]
    decide

def longWire : Wire where
  sha256 := fun text =>
    if text = "harness.attention.trace.v1:" ++ longAttention then
      .ofNat 0xbbf8b9926e8966b4510b3fb90fa04dfd31f883c13d64e1dc5be9bec4fbeb4ad0
    else if text = "harness.attention.span.v1:" ++ (longAttention ++ ":opened:v1") then
      .ofNat 0xae6533627703af41cf7409c5d46818f516da7c5f325a29ea2d2c3e6cfc49adbe
    else .ofNat 0xe85ad706deb4a79e51ad476a08d8a2852072385eea1e6c8267189db52aa11a00
  digestJson := fun _ => emptyDigest
  byteLength := fun _ => 0

theorem longWire_digests : allZero (openedLink longWire (infrastructureItem longAttention)).trace.traceId = false ∧
    allZero (openedLink longWire (infrastructureItem longAttention)).trace.spanId = false := by
  have htrace : longWire.sha256 ("harness.attention.trace.v1:" ++ longAttention) =
      .ofNat 0xbbf8b9926e8966b4510b3fb90fa04dfd31f883c13d64e1dc5be9bec4fbeb4ad0 := by
    dsimp only [longWire]
    rw [if_pos rfl]
  have hspan : longWire.sha256 ("harness.attention.span.v1:" ++ (longAttention ++ ":opened:v1")) =
      .ofNat 0xae6533627703af41cf7409c5d46818f516da7c5f325a29ea2d2c3e6cfc49adbe := by
    dsimp only [longWire]
    rw [if_neg (fun heq => ?_), if_pos rfl]
    have hlength := congrArg (fun s : String => s.toList.length) heq
    simp only [String.toList_append, List.length_append, longAttention_text, List.length_replicate] at hlength
    exact absurd hlength (by decide)
  have htext : attentionText (infrastructureItem longAttention) .opened = longAttention ++ ":opened:v1" := by
    unfold attentionText
    rw [String.append_assoc, String.append_assoc, String.append_assoc]
    exact congrArg (fun tail => longAttention ++ tail) (by decide)
  unfold openedLink
  rw [htext, show (infrastructureItem longAttention).attentionId = longAttention from rfl, htrace, hspan, allZero_ofNat,
    allZero_ofNat]
  decide

/-! ## An item that has no delivery -/

/-- **An item that has no delivery refuses the pass** that reaches it. -/
theorem record_refused {w : Wire} {s : MirrorState} {k : Nat} {p : MirrorPass} {i : AttentionItem} {is : List AttentionItem}
    (hp : s.passes[k]? = some p) (hleft : p.left = i :: is)
    (hid : isSafeOperatorControlIdentifier i.attentionId = true) (hbad : ¬ Deliverable i) :
    ∃ e, mirrorStep w s (.record k) = { s with passes := s.passes.set k ⟨p.page, [], some e⟩ } := by
  cases hn : notificationFromAttention w i with
  | ok d => exact absurd ((notification_iff hid d).1 hn).1 hbad
  | error e =>
    refine ⟨e, ?_⟩
    rw [step_record hp]
    simp only [recordNext, hleft, mirrorItem, hn]
    rfl

theorem long_undeliverable {i : AttentionItem} {n : Nat} {c : Char} (h : i.attentionId.toList = List.replicate n c)
    (hn : 146 < n) : ¬ Deliverable i := by
  intro hd
  have hlength := congrArg List.length h
  have hshort := hd.short
  rw [List.length_replicate] at hlength
  omega

/-- `n` passes, each up to its first refusal. -/
def triedPasses : Nat → List MirrorEvent
  | 0     => []
  | n + 1 => triedPasses n ++ [.start, .record n]

/-- **An undeliverable item at the head of the page** refuses every pass, and nothing is ever delivered. -/
theorem passes_refused {w : Wire} {s : MirrorState} {i : AttentionItem} {is : List AttentionItem}
    (h : Revisions s.attention) (hnone : s.passes = []) (hpage : mirrorPage s.tables = i :: is)
    (hbad : ¬ Deliverable i) : ∀ n, ∃ passes, run (mirrorStep w) s (triedPasses n) = { s with passes := passes } ∧
      passes.map (fun p => p.refusal.isSome) = List.replicate n true
  | 0 => ⟨[], by rw [triedPasses, Trace.run_nil, ← hnone], rfl⟩
  | n + 1 => by
    obtain ⟨passes, hrun, hrefused⟩ := passes_refused (w := w) h hnone hpage hbad n
    have hlength : passes.length = n := by
      have := congrArg List.length hrefused
      rwa [List.length_map, List.length_replicate] at this
    have hstart : mirrorStep w { s with passes := passes } .start =
        { s with passes := passes ++ [⟨i :: is, i :: is, none⟩] } := by
      rw [step_start (s := { s with passes := passes }) h]
      exact congrArg (fun page => ({ s with passes := passes ++ [⟨page, page, none⟩] } : MirrorState)) hpage
    have hlast : (passes ++ [(⟨i :: is, i :: is, none⟩ : MirrorPass)])[n]? = some ⟨i :: is, i :: is, none⟩ := by
      rw [← hlength]
      simp
    have hsafe : isSafeOperatorControlIdentifier i.attentionId = true :=
      h.safe i (mem_mirrorPage (t := s.tables) (by rw [hpage]; exact List.mem_cons_self))
    obtain ⟨e, hrecord⟩ := record_refused (w := w) (s := { s with passes := passes ++ [⟨i :: is, i :: is, none⟩] }) hlast rfl
      hsafe hbad
    refine ⟨passes ++ [⟨i :: is, [], some e⟩], ?_, ?_⟩
    · rw [triedPasses, Trace.run_append, hrun, Trace.run_cons, hstart, Trace.run_cons, hrecord, Trace.run_nil, ← hlength]
      simp
    · rw [List.map_append, hrefused, List.replicate_succ']
      rfl

/-- An item with an id of a hundred and sixty characters is taken, and every pass after it is refused. -/
theorem long_attention_wedges :
    isSafeOperatorControlIdentifier longAttention = true ∧
    (upsertSourceAttention longWire (infrastructureItem longAttention) (newMirror ∅).attention).1 =
      .ok (infrastructureItem longAttention) ∧
    ∀ n, (mirrorAfter longWire ∅ (.upsert (infrastructureItem longAttention) :: triedPasses n)).deliveries.rows = [] ∧
      (mirrorAfter longWire ∅ (.upsert (infrastructureItem longAttention) :: triedPasses n)).passes.map
        (fun p => p.refusal.isSome) = List.replicate n true := by
  obtain ⟨t, hopened, hcall, hitems, -⟩ := upsert_new (freshItem_empty
    (infrastructureItem_valid longAttention) rfl rfl ⟨by decide, longAttention_safe⟩ longWire_digests)
  have hkept : Mirrors longWire ⟨t, ∅, []⟩ := by
    rw [← hopened]
    exact (mirrors_new sound_empty).step (e := .upsert (infrastructureItem longAttention)) trivial
  have hpage : mirrorPage (MirrorState.tables ⟨t, ∅, []⟩) = [infrastructureItem longAttention] :=
    mirrorPage_single hitems rfl rfl
  have hbad : ¬ Deliverable (infrastructureItem longAttention) := long_undeliverable longAttention_text (by decide)
  refine ⟨longAttention_safe, hcall, fun n => ?_⟩
  obtain ⟨passes, hrun, hrefused⟩ := passes_refused (w := longWire) hkept.revisions rfl hpage hbad n
  unfold mirrorAfter
  rw [Trace.run_cons, hopened, hrun]
  exact ⟨rfl, hrefused⟩

end Control
end Bildr
