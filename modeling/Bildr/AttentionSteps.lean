import Bildr.AttentionRows
/-!
# AttentionSteps — what a call does to attention

A call leaves everything as it was, records the link of an opening again, opens an item, or writes an item anew
(`itemStep_steps`).  What the calls keep is read off these four.
-/
namespace Bildr
namespace Control

def AttentionState.entered : AttentionState → Option AttentionEventKind
  | .open         => some .opened
  | .acknowledged => some .acknowledged
  | s             => s.event

def LinkRecorded (w : Wire) (i : AttentionItem) (kind : AttentionEventKind) (t t' : AttentionTables) : Prop :=
  ∃ l, attentionCorrelationLink w i kind = .ok l ∧ recordCorrelationLinkInTransaction t.links l = .ok t'.links

structure NewItem (item : AttentionItem) : Prop where
  valid : item.validate = .ok ()
  isNew : item.isNew = true
  fits : fitsI64 item.source.sourceRevision = true

/-- The item is stored as it is opened again. -/
structure ItemRetried (w : Wire) (item : AttentionItem) (t t' : AttentionTables) : Prop where
  new : NewItem item
  stored : item ∈ t.items.rows
  items : t'.items = t.items
  events : t'.events = t.events
  link : LinkRecorded w item .opened t t'

structure ItemOpened (w : Wire) (item : AttentionItem) (t t' : AttentionTables) : Prop where
  new : NewItem item
  fresh : t.items.get item.attentionId = none
  alone : ∀ i ∈ t.items.rows, i.source ≠ item.source
  idle : sourceActive t item.source = false
  items : t'.items.rows = t.items.rows ++ [item]
  events : insertAttentionEvent t.events item .opened none = .ok t'.events
  link : LinkRecorded w item .opened t t'

/-- `next` is the version after `i`. -/
structure ItemSucceeds (i next : AttentionItem) : Prop where
  source : next.source = i.source
  run : next.runId = i.runId
  severity : next.severity = i.severity
  opened : next.openedAtMs = i.openedAtMs
  version : next.version = i.version + 1
  active : i.state.isTerminal = false
  left : next.state ≠ .open

structure ItemRewritten (w : Wire) (i next : AttentionItem) (t t' : AttentionTables) : Prop where
  stored : t.items.get next.attentionId = some i
  valid : next.validate = .ok ()
  succeeds : ItemSucceeds i next
  items : ∀ j, j ∈ t'.items.rows ↔ j = next ∨ j ∈ t.items.rows ∧ j.attentionId ≠ next.attentionId
  events : ∃ kind v, next.state.entered = some kind ∧ insertAttentionEvent t.events next kind v = .ok t'.events
  link : ∃ kind, LinkRecorded w next kind t t'

inductive ItemSteps (w : Wire) (t : AttentionTables) : AttentionCall → AttentionTables → Prop
  | same (c : AttentionCall) : ItemSteps w t c t
  | retried (item : AttentionItem) (t' : AttentionTables) (h : ItemRetried w item t t') : ItemSteps w t (.upsert item) t'
  | opened (item : AttentionItem) (t' : AttentionTables) (h : ItemOpened w item t t') : ItemSteps w t (.upsert item) t'
  | changed (c : AttentionCall) (i next : AttentionItem) (t' : AttentionTables) (h : ItemRewritten w i next t t') :
      ItemSteps w t c t'

section Calls
variable {w : Wire} {t t' : AttentionTables}

theorem upsert_itemSteps {item a : AttentionItem} (h : upsertBody w item t = .ok (a, t')) :
    ItemRetried w item t t' ∨ ItemOpened w item t t' := by
  unfold upsertBody require at h
  obtain ⟨hvalid, h⟩ := bind_unit_ok.1 h
  obtain ⟨hnew, h⟩ := ensure_bind_ok.1 h
  obtain ⟨revision, hrevision, h⟩ := bind_ok h
  have hfits : fitsI64 item.source.sourceRevision = true := by
    unfold toI64 at hrevision
    by_contra hno
    rw [if_neg hno] at hrevision
    cases hrevision
  have hitem : NewItem item := ⟨hvalid, hnew, hfits⟩
  cases hf : t.items.rows.find? (fun i => decide (i.source = item.source)) with
  | some existing =>
    simp only [hf] at h
    obtain ⟨-, h⟩ := bind_unit_ok.1 h
    obtain ⟨hsame, hlast⟩ := ensure_bind_ok.1 h
    obtain rfl : existing = item := by simpa using hsame
    obtain ⟨link, hlink, hlast⟩ := bind_ok hlast
    obtain ⟨links, hlinks, hlast⟩ := bind_ok hlast
    cases hlast
    exact Or.inl ⟨hitem, List.mem_of_find?_eq_some hf, rfl, rfl, link, hlink, hlinks⟩
  | none =>
    simp only [hf] at h
    obtain ⟨hidle, h⟩ := ensure_bind_ok.1 h
    obtain ⟨-, h⟩ := ensure_bind_ok.1 h
    obtain ⟨items, hitems, h⟩ := bind_ok h
    obtain ⟨events, hevents, h⟩ := bind_ok h
    obtain ⟨link, hlink, h⟩ := bind_ok h
    obtain ⟨links, hlinks, h⟩ := bind_ok h
    cases h
    obtain ⟨hfresh, hrows⟩ := insertRow_ok_iff.1 hitems
    refine Or.inr ⟨hitem, ?_, fun j hj hsource => ?_, by simpa using hidle, hrows, hevents, link, hlink, hlinks⟩
    · exact Table.get_none.2 (fun j hj hid => hfresh (List.mem_map.2 ⟨j, hj, hid⟩))
    · exact List.find?_eq_none.1 hf j hj (by simpa using hsource)

theorem write_rewritten {i next a : AttentionItem} {kind : AttentionEventKind} {v : Nat}
    (h : writeAttention w next kind v t = .ok (a, t')) (hstored : t.items.get next.attentionId = some i)
    (hsucceeds : ItemSucceeds i next) (hkind : next.state.entered = some kind) : ItemRewritten w i next t t' := by
  unfold writeAttention at h
  obtain ⟨hvalid, h⟩ := bind_unit_ok.1 h
  obtain ⟨-, -, h⟩ := bind_ok h
  obtain ⟨events, hevents, h⟩ := bind_ok h
  obtain ⟨link, hlink, h⟩ := bind_ok h
  obtain ⟨links, hlinks, h⟩ := bind_ok h
  cases h
  refine ⟨hstored, hvalid, hsucceeds, fun j => ?_, ⟨kind, some v, hkind, hevents⟩, kind, link, hlink, hlinks⟩
  rw [Table.mem_update]
  constructor
  · rintro ⟨q, hq, rfl⟩
    by_cases hid : q.attentionId = next.attentionId
    · rw [if_pos (by simpa using hid), hid]
      exact Or.inl rfl
    · rw [if_neg (by simpa using hid)]
      exact Or.inr ⟨hq, hid⟩
  · rintro (rfl | ⟨hj, hid⟩)
    · obtain ⟨hmem, hkey⟩ := Table.get_some.1 hstored
      exact ⟨i, hmem, by rw [if_pos (by simpa using hkey), hkey]⟩
    · exact ⟨j, hj, by rw [if_neg (by simpa using hid)]⟩

theorem readAttention_ok {id : String} {v : Nat} {why : AttentionItem → String} {i : AttentionItem}
    (h : readAttention t id v why = .ok i) : t.items.get i.attentionId = some i := by
  have hget := (readAttention_stored h).1
  rw [Table.key_of_get hget]
  exact hget

theorem transition_active {s next : AttentionState} (h : s.validateTransition next false = .ok ()) :
    s.isTerminal = false := by
  unfold AttentionState.validateTransition at h
  have hcheck := ensure_ok h
  rw [Bool.and_eq_true, Bool.or_false, Bool.not_eq_true'] at hcheck
  exact hcheck.2

theorem event_entered {s : AttentionState} {kind : AttentionEventKind} (h : s.event = some kind) :
    s.entered = some kind ∧ s ≠ .open := by
  cases s with
  | «open» => cases h
  | acknowledged => cases h
  | _ => exact ⟨h, by decide⟩

theorem acknowledge_rewritten {id : String} {v : Nat} {now : Int} {a : AttentionItem}
    (h : acknowledgeBody w id v now t = .ok (a, t')) : ∃ i next, ItemRewritten w i next t t' := by
  unfold acknowledgeBody at h
  obtain ⟨i, hread, h⟩ := bind_ok h
  obtain ⟨hmove, h⟩ := bind_unit_ok.1 h
  exact ⟨i, _, write_rewritten h (readAttention_ok hread)
    ⟨rfl, rfl, rfl, rfl, rfl, transition_active hmove, (show AttentionState.acknowledged ≠ .open by decide)⟩ rfl⟩

theorem resolve_rewritten {id : String} {v : Nat} {next : AttentionState} {r : AttentionResolution} {a : AttentionItem}
    (h : resolveBody w id v next r t = .ok (a, t')) : ∃ i next, ItemRewritten w i next t t' := by
  unfold resolveBody at h
  obtain ⟨kind, hkind, h⟩ := bind_ok h
  obtain ⟨-, h⟩ := bind_unit_ok.1 h
  obtain ⟨i, hread, h⟩ := bind_ok h
  obtain ⟨hmove, h⟩ := bind_unit_ok.1 h
  obtain ⟨hentered, hleft⟩ := event_entered (okOr_ok hkind)
  exact ⟨i, _, write_rewritten h (readAttention_ok hread)
    ⟨rfl, rfl, rfl, rfl, rfl, transition_active hmove, hleft⟩ hentered⟩

end Calls

theorem itemStep_steps (w : Wire) (t : AttentionTables) (c : AttentionCall) : ItemSteps w t c (itemStep w t c) := by
  cases c with
  | upsert item =>
    refine transaction_after (P := ItemSteps w t (.upsert item)) (.same _) (fun a t' hb => ?_)
    exact (upsert_itemSteps hb).elim (.retried item t') (.opened item t')
  | acknowledge id v now =>
    refine transaction_after (P := ItemSteps w t (.acknowledge id v now)) (.same _) (fun a t' hb => ?_)
    obtain ⟨i, next, h⟩ := acknowledge_rewritten hb
    exact .changed _ i next t' h
  | resolve id v next r =>
    refine transaction_after (P := ItemSteps w t (.resolve id v next r)) (.same _) (fun a t' hb => ?_)
    obtain ⟨i, next', h⟩ := resolve_rewritten hb
    exact .changed _ i next' t' h

theorem state_of_new {item : AttentionItem} (h : item.isNew = true) : item.state = .open := by
  unfold AttentionItem.isNew at h
  simp only [Bool.and_eq_true, decide_eq_true_eq] at h
  exact h.1.1.1

end Control
end Bildr
