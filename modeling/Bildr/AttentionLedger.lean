import Bildr.AttentionSteps
import Bildr.NotificationMirror
/-!
# AttentionLedger — what the rows of attention keep

An item is active until a receipt of its source closes it; then nothing changes it again.  Its versions are the events
that made them, one after another, and its row says what the last of them says (`attention_ledger`).
-/
namespace Bildr
namespace Control

open Trace (run)

/-! ## What a call does -/

def eventsOf (t : AttentionTables) (id : String) : List AttentionEvent :=
  t.events.rows.filter (fun e => e.attentionId == id)

structure Tells (e : AttentionEvent) (i : AttentionItem) : Prop where
  item : e.attentionId = i.attentionId
  source : e.source = i.source
  payload : e.payload = i
  version : e.resultingVersion = i.version
  kind : i.state.entered = some e.kind

/-- What a call does to items and events: nothing, or one event more. -/
inductive Edited (t t' : AttentionTables) : Prop
  | same (items : t'.items = t.items) (events : t'.events = t.events)
  | opened (i : AttentionItem) (e : AttentionEvent) (valid : i.validate = .ok ()) (new : i.isNew = true)
      (fresh : t.items.get i.attentionId = none) (alone : ∀ j ∈ t.items.rows, j.source ≠ i.source)
      (idle : sourceActive t i.source = false) (items : t'.items.rows = t.items.rows ++ [i])
      (events : t'.events.rows = t.events.rows ++ [e]) (tells : Tells e i)
  | changed (i next : AttentionItem) (e : AttentionEvent) (stored : t.items.get next.attentionId = some i)
      (valid : next.validate = .ok ()) (active : i.state.isTerminal = false) (left : next.state ≠ .open)
      (source : next.source = i.source) (version : next.version = i.version + 1)
      (items : ∀ j, j ∈ t'.items.rows ↔ j = next ∨ j ∈ t.items.rows ∧ j.attentionId ≠ next.attentionId)
      (events : t'.events.rows = t.events.rows ++ [e]) (tells : Tells e next)

theorem insertEvent_tells {t u : Table AttentionEvent.id} {i : AttentionItem} {kind : AttentionEventKind} {v : Option Nat}
    (h : insertAttentionEvent t i kind v = .ok u) (hkind : i.state.entered = some kind) :
    ∃ e, u.rows = t.rows ++ [e] ∧ Tells e i := by
  unfold insertAttentionEvent require at h
  obtain ⟨-, h⟩ := ensure_bind_ok.1 h
  exact ⟨_, (insertRow_ok_iff.1 h).2, rfl, rfl, rfl, rfl, hkind⟩

theorem ItemSteps.edited {w : Wire} {t t' : AttentionTables} {c : AttentionCall} (h : ItemSteps w t c t') : Edited t t' := by
  cases h with
  | same => exact .same rfl rfl
  | retried item _ h => exact .same h.items h.events
  | opened item _ h =>
    obtain ⟨e, hevent, htells⟩ := insertEvent_tells h.events (by rw [state_of_new h.new.isNew]; rfl)
    exact .opened item e h.new.valid h.new.isNew h.fresh h.alone h.idle h.items hevent htells
  | changed _ i next _ h =>
    obtain ⟨kind, v, hkind, hevents⟩ := h.events
    obtain ⟨e, hevent, htells⟩ := insertEvent_tells hevents hkind
    exact .changed i next e h.stored h.valid h.succeeds.active h.succeeds.left h.succeeds.source h.succeeds.version h.items
      hevent htells

theorem performItems_edited (w : Wire) (t : AttentionTables) (c : AttentionCall) : Edited t (itemStep w t c) :=
  (itemStep_steps w t c).edited

/-! ## What the items keep -/

structure KeptItems (t : AttentionTables) : Prop where
  valid : ∀ i ∈ t.items.rows, i.validate = .ok ()
  sources : ∀ i ∈ t.items.rows, ∀ j ∈ t.items.rows, i.source = j.source → i = j
  oneActive : ∀ i ∈ t.items.rows, ∀ j ∈ t.items.rows, i.source.sourceType = j.source.sourceType →
    i.source.sourceId = j.source.sourceId → i.state.isActive = true → j.state.isActive = true → i = j
  numbered : ∀ i ∈ t.items.rows, (eventsOf t i.attentionId).map AttentionEvent.resultingVersion = List.range' 1 i.version
  current : ∀ i ∈ t.items.rows, ∃ e, (eventsOf t i.attentionId).getLast? = some e ∧ Tells e i
  owned : ∀ e ∈ t.events.rows, ∃ i ∈ t.items.rows, i.attentionId = e.attentionId

theorem keptItems_empty (links : Links) : KeptItems ⟨∅, ∅, links⟩ where
  valid := fun _ hi => by cases hi
  sources := fun _ hi => by cases hi
  oneActive := fun _ hi => by cases hi
  numbered := fun _ hi => by cases hi
  current := fun _ hi => by cases hi
  owned := fun _ he => by cases he

theorem eventsOf_other {t t' : AttentionTables} {e : AttentionEvent} (h : t'.events.rows = t.events.rows ++ [e])
    {id : String} (hid : e.attentionId ≠ id) : eventsOf t' id = eventsOf t id := by
  unfold eventsOf
  rw [h, List.filter_append, List.filter_cons_of_neg (by simpa using hid), List.filter_nil, List.append_nil]

theorem eventsOf_own {t t' : AttentionTables} {e : AttentionEvent} (h : t'.events.rows = t.events.rows ++ [e]) :
    eventsOf t' e.attentionId = eventsOf t e.attentionId ++ [e] := by
  unfold eventsOf
  rw [h, List.filter_append, List.filter_cons_of_pos (by simp), List.filter_nil]

theorem active_of_not_terminal {s : AttentionState} (h : s.isTerminal = false) : s.isActive = true := by
  revert h
  cases s <;> decide

theorem KeptItems.opened {t t' : AttentionTables} (h : KeptItems t) {i : AttentionItem} {e : AttentionEvent}
    (hvalid : i.validate = .ok ()) (hnew : i.isNew = true) (hfresh : t.items.get i.attentionId = none)
    (halone : ∀ j ∈ t.items.rows, j.source ≠ i.source) (hidle : sourceActive t i.source = false)
    (hitems : t'.items.rows = t.items.rows ++ [i]) (hevents : t'.events.rows = t.events.rows ++ [e])
    (htells : Tells e i) : KeptItems t' := by
  have hmem : ∀ j, j ∈ t'.items.rows ↔ j ∈ t.items.rows ∨ j = i := by
    intro j
    rw [hitems, List.mem_append, List.mem_singleton]
  have hother : ∀ j ∈ t.items.rows, e.attentionId ≠ j.attentionId := by
    intro j hj hid
    exact Table.get_none.1 hfresh j hj (hid.symm.trans htells.item)
  have hnone : eventsOf t i.attentionId = [] := by
    unfold eventsOf
    refine List.filter_eq_nil_iff.2 (fun f hf hid => ?_)
    obtain ⟨j, hj, hjf⟩ := h.owned f hf
    exact Table.get_none.1 hfresh j hj (hjf.trans (by simpa using hid))
  have hown : eventsOf t' i.attentionId = [e] := by
    rw [← htells.item, eventsOf_own hevents, htells.item, hnone, List.nil_append]
  have hversion : i.version = 1 := by
    unfold AttentionItem.isNew at hnew
    simp only [Bool.and_eq_true, beq_iff_eq] at hnew
    exact hnew.1.1.2
  have hquiet : ∀ j ∈ t.items.rows, j.source.sourceType = i.source.sourceType → j.source.sourceId = i.source.sourceId →
      j.state.isActive = false := by
    intro j hj htype hid
    have hj' := List.any_eq_false.1 hidle j hj
    simpa [htype, hid] using hj'
  refine ⟨fun j hj => ?_, fun j hj k hk hsource => ?_, fun j hj k hk htype hid hja hka => ?_, fun j hj => ?_,
    fun j hj => ?_, fun f hf => ?_⟩
  · rcases (hmem j).1 hj with hj | rfl
    · exact h.valid j hj
    · exact hvalid
  · rcases (hmem j).1 hj with hj | rfl
    · rcases (hmem k).1 hk with hk | rfl
      · exact h.sources j hj k hk hsource
      · exact absurd hsource (halone j hj)
    · rcases (hmem k).1 hk with hk | rfl
      · exact absurd hsource.symm (halone k hk)
      · rfl
  · rcases (hmem j).1 hj with hj | rfl
    · rcases (hmem k).1 hk with hk | rfl
      · exact h.oneActive j hj k hk htype hid hja hka
      · rw [hquiet j hj htype hid] at hja
        cases hja
    · rcases (hmem k).1 hk with hk | rfl
      · rw [hquiet k hk htype.symm hid.symm] at hka
        cases hka
      · rfl
  · rcases (hmem j).1 hj with hj | rfl
    · rw [eventsOf_other hevents (hother j hj)]
      exact h.numbered j hj
    · rw [hown, List.map_singleton, htells.version, hversion]
      rfl
  · rcases (hmem j).1 hj with hj | rfl
    · rw [eventsOf_other hevents (hother j hj)]
      exact h.current j hj
    · exact ⟨e, by rw [hown]; rfl, htells⟩
  · rw [hevents, List.mem_append, List.mem_singleton] at hf
    rcases hf with hf | rfl
    · obtain ⟨j, hj, hid⟩ := h.owned f hf
      exact ⟨j, (hmem j).2 (Or.inl hj), hid⟩
    · exact ⟨i, (hmem i).2 (Or.inr rfl), htells.item.symm⟩

theorem KeptItems.changed {t t' : AttentionTables} (h : KeptItems t) {i next : AttentionItem} {e : AttentionEvent}
    (hstored : t.items.get next.attentionId = some i) (hvalid : next.validate = .ok ())
    (hactive : i.state.isTerminal = false) (hsource : next.source = i.source) (hversion : next.version = i.version + 1)
    (hitems : ∀ j, j ∈ t'.items.rows ↔ j = next ∨ j ∈ t.items.rows ∧ j.attentionId ≠ next.attentionId)
    (hevents : t'.events.rows = t.events.rows ++ [e]) (htells : Tells e next) : KeptItems t' := by
  obtain ⟨hmem, hkey⟩ := Table.get_some.1 hstored
  have hown : eventsOf t' next.attentionId = eventsOf t i.attentionId ++ [e] := by
    rw [hkey, ← htells.item]
    exact eventsOf_own hevents
  have hother : ∀ j ∈ t.items.rows, j.attentionId ≠ next.attentionId → eventsOf t' j.attentionId = eventsOf t j.attentionId :=
    fun j _ hid => eventsOf_other hevents (fun heq => hid (heq.symm.trans htells.item))
  refine ⟨fun j hj => ?_, fun j hj k hk hs => ?_, fun j hj k hk htype hid hja hka => ?_, fun j hj => ?_,
    fun j hj => ?_, fun f hf => ?_⟩
  · rcases (hitems j).1 hj with rfl | ⟨hj, -⟩
    · exact hvalid
    · exact h.valid j hj
  · rcases (hitems j).1 hj with rfl | ⟨hj, hjn⟩
    · rcases (hitems k).1 hk with rfl | ⟨hk, hkn⟩
      · rfl
      · have := h.sources i hmem k hk (hsource.symm.trans hs)
        exact absurd (this ▸ hkey) hkn
    · rcases (hitems k).1 hk with rfl | ⟨hk, -⟩
      · have := h.sources j hj i hmem (hs.trans hsource)
        exact absurd (this ▸ hkey) hjn
      · exact h.sources j hj k hk hs
  · have hi := active_of_not_terminal hactive
    rcases (hitems j).1 hj with rfl | ⟨hj, hjn⟩
    · rcases (hitems k).1 hk with rfl | ⟨hk, hkn⟩
      · rfl
      · rw [hsource] at htype hid
        have := h.oneActive i hmem k hk htype hid hi hka
        exact absurd (this ▸ hkey) hkn
    · rcases (hitems k).1 hk with rfl | ⟨hk, -⟩
      · rw [hsource] at htype hid
        have := h.oneActive j hj i hmem htype hid hja hi
        exact absurd (this ▸ hkey) hjn
      · exact h.oneActive j hj k hk htype hid hja hka
  · rcases (hitems j).1 hj with rfl | ⟨hj, hjn⟩
    · rw [hown, List.map_append, h.numbered i hmem, List.map_singleton, htells.version, hversion, List.range'_concat,
        Nat.one_mul, Nat.add_comm]
    · rw [hother j hj hjn]
      exact h.numbered j hj
  · rcases (hitems j).1 hj with rfl | ⟨hj, hjn⟩
    · exact ⟨e, by rw [hown, List.getLast?_concat], htells⟩
    · rw [hother j hj hjn]
      exact h.current j hj
  · rw [hevents, List.mem_append, List.mem_singleton] at hf
    rcases hf with hf | rfl
    · obtain ⟨j, hj, hid⟩ := h.owned f hf
      by_cases heq : j.attentionId = next.attentionId
      · exact ⟨next, (hitems next).2 (Or.inl rfl), heq.symm.trans hid⟩
      · exact ⟨j, (hitems j).2 (Or.inr ⟨hj, heq⟩), hid⟩
    · exact ⟨next, (hitems next).2 (Or.inl rfl), htells.item.symm⟩

theorem KeptItems.step {t t' : AttentionTables} (h : KeptItems t) (he : Edited t t') : KeptItems t' := by
  cases he with
  | same hi hev =>
    have hof : ∀ id, eventsOf t' id = eventsOf t id := fun id => by
      unfold eventsOf
      rw [hev]
    refine ⟨hi ▸ h.valid, hi ▸ h.sources, hi ▸ h.oneActive, fun i hm => ?_, fun i hm => ?_, hi ▸ hev ▸ h.owned⟩
    · rw [hof]
      exact h.numbered i (hi ▸ hm)
    · rw [hof]
      exact h.current i (hi ▸ hm)
  | opened i e hvalid hnew hfresh halone hidle hi hev ht =>
    exact h.opened hvalid hnew hfresh halone hidle hi hev ht
  | changed i next e hstored hvalid hactive _ hsource hversion hi hev ht =>
    exact h.changed hstored hvalid hactive hsource hversion hi hev ht

theorem keptItems_run (w : Wire) (links : Links) (calls : List AttentionCall) :
    KeptItems (run (itemStep w) ⟨∅, ∅, links⟩ calls) := by
  induction calls using List.reverseRecOn with
  | nil => exact keptItems_empty links
  | append_singleton calls c ih =>
    rw [Trace.run_append]
    exact ih.step (performItems_edited w _ c)

theorem Edited.terminal {t t' : AttentionTables} (he : Edited t t') {i : AttentionItem} (hi : i ∈ t.items.rows)
    (hterminal : i.state.isTerminal = true) : i ∈ t'.items.rows := by
  cases he with
  | same hitems _ =>
    rw [hitems]
    exact hi
  | opened j e _ _ _ _ _ hitems _ _ =>
    rw [hitems]
    exact List.mem_append_left _ hi
  | changed j next e hstored _ hactive _ _ _ hitems _ _ =>
    refine (hitems i).2 (Or.inr ⟨hi, fun hid => ?_⟩)
    have hij : i = j := by
      have : some i = some j := by rw [← hstored, ← hid, Table.get_of_mem hi]
      exact Option.some.inj this
    rw [hij, hactive] at hterminal
    cases hterminal

theorem closed_run (w : Wire) : ∀ (calls : List AttentionCall) {t : AttentionTables} {i : AttentionItem},
    i ∈ t.items.rows → i.state.isTerminal = true → i ∈ (run (itemStep w) t calls).items.rows
  | [], _, _, hi, _ => hi
  | c :: calls, t, _, hi, hterminal =>
    closed_run w calls ((performItems_edited w t c).terminal hi hterminal) hterminal

/-! ## What the rows keep -/

def eventRowsOf (s : AttentionStore) (id : String) : List AttentionEventRow :=
  s.events.rows.filter (fun e => e.attentionId == id)

structure AttentionLedger (w : Wire) (s : AttentionStore) : Prop where
  /-- A source has at most one active item. -/
  oneActive : ∀ r ∈ s.items.rows, ∀ q ∈ s.items.rows, r.sourceType = q.sourceType → r.sourceId = q.sourceId →
    r.state.isActive = true → q.state.isActive = true → r = q
  counted : ∀ r ∈ s.items.rows, r.version = (eventRowsOf s r.id).length
  numbered : ∀ r ∈ s.items.rows,
    (eventRowsOf s r.id).map AttentionEventRow.resultingVersion = List.range' 1 r.version
  /-- State, payload and digest of a row are those of its last event. -/
  current : ∀ r ∈ s.items.rows, ∃ e, (eventRowsOf s r.id).getLast? = some e ∧ r.state.entered = some e.eventKind ∧
    r.state = e.payload.state ∧ r.payload = e.payload ∧ r.payloadSha256 = e.payloadSha256
  digest : ∀ r ∈ s.items.rows, r.payloadSha256 = (w.digestJson r.payload.json).hex
  resolved : ∀ r ∈ s.items.rows, r.resolution.isSome = r.state.isTerminal

theorem validate_resolved {i : AttentionItem} (h : i.validate = .ok ()) : i.resolution.isSome = i.state.isTerminal := by
  unfold AttentionItem.validate at h
  obtain ⟨-, h⟩ := ensure_bind_ok.1 h
  obtain ⟨-, h⟩ := bind_unit_ok.1 h
  obtain ⟨-, h⟩ := bind_unit_ok.1 h
  obtain ⟨-, h⟩ := bind_unit_ok.1 h
  obtain ⟨-, h⟩ := bind_unit_ok.1 h
  obtain ⟨-, h⟩ := bind_unit_ok.1 h
  obtain ⟨hsome, -⟩ := ensure_bind_ok.1 h
  exact (by simpa using hsome : i.state.isTerminal = i.resolution.isSome).symm

theorem eventRowsOf_eq (w : Wire) (t : AttentionTables) (id : String) :
    eventRowsOf (storeOf w t) id = (eventsOf t id).map (eventRowOf w) := by
  unfold eventRowsOf eventsOf
  rw [events_storeOf, List.filter_map]
  rfl

theorem KeptItems.ledger {t : AttentionTables} (h : KeptItems t) (w : Wire) : AttentionLedger w (storeOf w t) where
  oneActive := by
    intro r hr q hq htype hid hra hqa
    obtain ⟨i, hi, rfl⟩ := List.mem_map.1 hr
    obtain ⟨j, hj, rfl⟩ := List.mem_map.1 hq
    rw [h.oneActive i hi j hj htype hid hra hqa]
  counted := by
    intro r hr
    obtain ⟨i, hi, rfl⟩ := List.mem_map.1 hr
    have hnumbered := congrArg List.length (h.numbered i hi)
    rw [List.length_map, List.length_range'] at hnumbered
    rw [eventRowsOf_eq, List.length_map]
    exact hnumbered.symm
  numbered := by
    intro r hr
    obtain ⟨i, hi, rfl⟩ := List.mem_map.1 hr
    rw [eventRowsOf_eq, List.map_map]
    exact h.numbered i hi
  current := by
    intro r hr
    obtain ⟨i, hi, rfl⟩ := List.mem_map.1 hr
    obtain ⟨e, hlast, htells⟩ := h.current i hi
    refine ⟨eventRowOf w e, ?_, htells.kind, ?_, htells.payload.symm, ?_⟩
    · rw [eventRowsOf_eq, List.getLast?_map]
      exact congrArg (Option.map (eventRowOf w)) hlast
    · exact congrArg AttentionItem.state htells.payload.symm
    · exact congrArg (fun j => (w.digestJson (AttentionItem.json j)).hex) htells.payload.symm
  digest := by
    intro r hr
    obtain ⟨i, hi, rfl⟩ := List.mem_map.1 hr
    rfl
  resolved := by
    intro r hr
    obtain ⟨i, hi, rfl⟩ := List.mem_map.1 hr
    exact validate_resolved (h.valid i hi)

def newAttention (links : Links) : AttentionStore := ⟨∅, ∅, links⟩

theorem storeOf_new (w : Wire) (links : Links) : storeOf w ⟨∅, ∅, links⟩ = newAttention links := by
  unfold storeOf newAttention
  rw [show (∅ : Table AttentionItem.attentionId).image (rowOf w) (rowOf_id w) = ∅ from Table.image_empty,
    show (∅ : Table AttentionEvent.id).image (eventRowOf w) (eventRowOf_id w) = ∅ from Table.image_empty]

theorem rows_of_run (w : Wire) (links : Links) (calls : List AttentionCall) :
    run (rowStep w) (newAttention links) calls = storeOf w (run (itemStep w) ⟨∅, ∅, links⟩ calls) := by
  rw [← storeOf_new w links, rowRun_image]

theorem performRows_error {w : Wire} {c : AttentionCall} {s : AttentionStore} {e : StoreError}
    (h : (performRows w c s).1 = .error e) : rowStep w s c = s := by
  unfold rowStep
  cases c with
  | upsert item => exact transaction_error h
  | acknowledge id v now => exact transaction_error h
  | resolve id v next r => exact transaction_error h

/-- **The ledger of attention**: after any calls the rows are in order, a closed row stays as it is through any calls
that follow, and a call that fails changes nothing. -/
theorem attention_ledger (w : Wire) (links : Links) (calls : List AttentionCall) :
    AttentionLedger w (run (rowStep w) (newAttention links) calls) ∧
    (∀ later, ∀ r ∈ (run (rowStep w) (newAttention links) calls).items.rows, r.state.isTerminal = true →
      (run (rowStep w) (newAttention links) (calls ++ later)).items.get r.id = some r) ∧
    (∀ c e, (performRows w c (run (rowStep w) (newAttention links) calls)).1 = .error e →
      rowStep w (run (rowStep w) (newAttention links) calls) c = run (rowStep w) (newAttention links) calls) := by
  refine ⟨?_, fun later r hr hterminal => ?_, fun c e h => performRows_error h⟩
  · rw [rows_of_run]
    exact (keptItems_run w links calls).ledger w
  · rw [rows_of_run] at hr
    obtain ⟨i, hi, rfl⟩ := List.mem_map.1 hr
    rw [rows_of_run, Trace.run_append]
    exact Table.get_of_mem (List.mem_map.2 ⟨i, closed_run w later hi hterminal, rfl⟩)

end Control
end Bildr
