import Bildr.AttentionAcknowledgement
/-!
# AttentionReopening — an item opened again

A retried opening is compared with the payload that is stored now.  So it is answered only as long as the row still
holds what was opened: an acknowledgement or a source resolution of the item writes the payload anew, and the same
opening is refused from then on (`opening_retried_iff`).
-/
namespace Bildr
namespace Control

open Trace (run)

/-! ## What an opening leaves -/

/-- What an accepted opening leaves: the item itself, and its link. -/
structure OpenedItem (w : Wire) (item : AttentionItem) (t : AttentionTables) : Prop extends NewItem item where
  link : ∃ l, attentionCorrelationLink w item .opened = .ok l ∧ l.validate = .ok () ∧ t.links.get l.linkId = some l

theorem record_get {t t' : Links} {l : CorrelationLink} (h : recordCorrelationLinkInTransaction t l = .ok t') :
    l.validate = .ok () ∧ t'.get l.linkId = some l := by
  constructor
  · unfold recordCorrelationLinkInTransaction at h
    exact (bind_unit_ok.1 h).1
  · rcases record_cases h with ⟨hget, rfl⟩ | ⟨-, -, hrows⟩
    · exact hget
    · exact Table.get_of_mem (by rw [hrows]; simp)

theorem NewItem.opened {w : Wire} {item : AttentionItem} {t t' : AttentionTables} (h : NewItem item)
    (hlink : LinkRecorded w item .opened t t') : OpenedItem w item t' := by
  obtain ⟨l, hl, hlinks⟩ := hlink
  obtain ⟨hok, hget⟩ := record_get hlinks
  exact ⟨h, l, hl, hok, hget⟩

theorem opened_of_upsert {w : Wire} {item : AttentionItem} {t : AttentionTables}
    (h : (performItems w (.upsert item) t).1.isOk = true) :
    item ∈ (itemStep w t (.upsert item)).items.rows ∧ OpenedItem w item (itemStep w t (.upsert item)) := by
  unfold itemStep
  change (transaction (upsertBody w item) t).1.isOk = true at h
  change item ∈ (transaction (upsertBody w item) t).2.items.rows ∧ OpenedItem w item (transaction (upsertBody w item) t).2
  rcases transaction_cases (upsertBody w item) t with ⟨e, -, hcall⟩ | ⟨a, t', hb, hcall⟩
  · rw [hcall] at h
    cases h
  · rw [hcall]
    rcases upsert_itemSteps hb with h | h
    · exact ⟨h.items ▸ h.stored, h.new.opened h.link⟩
    · exact ⟨by rw [h.items]; simp, h.new.opened h.link⟩

def Descends (item : AttentionItem) (t : AttentionTables) : Prop :=
  ∃ i ∈ t.items.rows, i.attentionId = item.attentionId ∧ i.source = item.source ∧ (i = item ∨ i.state ≠ .open)

theorem Descends.step {item : AttentionItem} {t t' : AttentionTables} (h : Descends item t) (he : Edited t t') :
    Descends item t' := by
  obtain ⟨i, hi, hid, hsource, hstate⟩ := h
  cases he with
  | same hitems _ => exact ⟨i, hitems ▸ hi, hid, hsource, hstate⟩
  | opened j e _ _ _ _ _ hitems _ _ =>
    exact ⟨i, by rw [hitems]; exact List.mem_append_left _ hi, hid, hsource, hstate⟩
  | changed j next e hstored _ _ hleft hnext _ hitems _ _ =>
    by_cases heq : i.attentionId = next.attentionId
    · have hij : i = j := by
        have : some i = some j := by rw [← hstored, ← heq, Table.get_of_mem hi]
        exact Option.some.inj this
      exact ⟨next, (hitems next).2 (Or.inl rfl), heq.symm.trans hid, hnext.trans (hij ▸ hsource), Or.inr hleft⟩
    · exact ⟨i, (hitems i).2 (Or.inr ⟨hi, heq⟩), hid, hsource, hstate⟩

theorem OpenedItem.step {w : Wire} {item : AttentionItem} {t : AttentionTables} (h : OpenedItem w item t) (c : AttentionCall) :
    OpenedItem w item (itemStep w t c) := by
  obtain ⟨l, hl, hok, hget⟩ := h.link
  exact ⟨h.toNewItem, l, hl, hok, Table.get_extends (performItems_revises w t c).links.1 hget⟩

/-! ## The retry -/

section Again
variable {w : Wire} {item i : AttentionItem} {t : AttentionTables}

theorem find_source (hkept : KeptItems t) (hi : i ∈ t.items.rows) (hsource : i.source = item.source) :
    t.items.rows.find? (fun j => decide (j.source = item.source)) = some i := by
  cases hf : t.items.rows.find? (fun j => decide (j.source = item.source)) with
  | none => exact absurd (by simpa using hsource) (List.find?_eq_none.1 hf i hi)
  | some j =>
    have hj : j.source = item.source := by simpa using List.find?_some hf
    rw [hkept.sources j (List.mem_of_find?_eq_some hf) i hi (hj.trans hsource.symm)]

theorem OpenedItem.revision (h : OpenedItem w item t) :
    toI64 item.source.sourceRevision "attention source revision" = .ok item.source.sourceRevision := by
  unfold toI64
  rw [if_pos h.fits]

theorem upsert_again (hkept : KeptItems t) (hopened : OpenedItem w item t) (hi : item ∈ t.items.rows) :
    upsertSourceAttention w item t = (.ok item, t) := by
  obtain ⟨l, hl, hok, hlink⟩ := hopened.link
  have hrecord : recordCorrelationLinkInTransaction t.links l = .ok t.links := by
    unfold recordCorrelationLinkInTransaction
    rw [hok, ok_bind, hlink]
    simp
  have hbody : upsertBody w item t = .ok (item, t) := by
    unfold upsertBody
    simp only [hopened.valid, hopened.isNew, hopened.revision, find_source hkept hi rfl, hl, hrecord, beq_self_eq_true,
      ensure_true, ok_bind, pure_ok]
  unfold upsertSourceAttention transaction
  rw [hbody]

theorem upsert_changed (hkept : KeptItems t) (hopened : OpenedItem w item t) (hi : i ∈ t.items.rows)
    (hsource : i.source = item.source) (hne : i ≠ item) : (upsertSourceAttention w item t).1.isOk = false := by
  unfold upsertSourceAttention
  rcases transaction_cases (upsertBody w item) t with ⟨e, -, hcall⟩ | ⟨a, t', hb, -⟩
  · rw [hcall]
    rfl
  · unfold upsertBody at hb
    simp only [hopened.valid, hopened.isNew, hopened.revision, find_source hkept hi hsource, ensure_true, ok_bind] at hb
    obtain ⟨-, hb⟩ := bind_unit_ok.1 hb
    obtain ⟨hsame, -⟩ := ensure_bind_ok.1 hb
    exact absurd (by simpa using hsame) hne

end Again

def attentionAfter (w : Wire) (links : Links) (calls : List AttentionCall) : AttentionStore :=
  run (rowStep w) (newAttention links) calls

theorem opened_run {w : Wire} {item : AttentionItem} : ∀ (later : List AttentionCall) {t : AttentionTables},
    OpenedItem w item t → Descends item t →
      OpenedItem w item (run (itemStep w) t later) ∧ Descends item (run (itemStep w) t later)
  | [], _, ho, hd => ⟨ho, hd⟩
  | c :: later, t, ho, hd => opened_run later (ho.step c) (hd.step (performItems_edited w t c))

/-- **A retried opening.**  After an opening that succeeded, and any calls since, the same opening succeeds and changes
nothing exactly if the item's row is still open. -/
theorem opening_retried_iff (w : Wire) (links : Links) (before later : List AttentionCall) (item : AttentionItem)
    (hopened : (performRows w (.upsert item) (attentionAfter w links before)).1.isOk = true) :
    ((performRows w (.upsert item) (attentionAfter w links (before ++ .upsert item :: later))).1.isOk = true ∧
        rowStep w (attentionAfter w links (before ++ .upsert item :: later)) (.upsert item) =
          attentionAfter w links (before ++ .upsert item :: later)) ↔
      ((attentionAfter w links (before ++ .upsert item :: later)).items.get item.attentionId).map AttentionRow.state =
        some .open := by
  have hafter : ∀ calls, attentionAfter w links calls = storeOf w (run (itemStep w) ⟨∅, ∅, links⟩ calls) :=
    rows_of_run w links
  rw [hafter, performRows_image] at hopened
  obtain ⟨hmem, ho⟩ := opened_of_upsert hopened
  obtain ⟨ho', hd'⟩ := opened_run later ho ⟨item, hmem, rfl, rfl, Or.inl rfl⟩
  have hrun : run (itemStep w) ⟨∅, ∅, links⟩ (before ++ .upsert item :: later) =
      run (itemStep w) (itemStep w (run (itemStep w) ⟨∅, ∅, links⟩ before) (.upsert item)) later := by
    rw [Trace.run_append, Trace.run_cons]
  rw [hafter, hrun]
  have hkept := keptItems_run w links (before ++ .upsert item :: later)
  rw [hrun] at hkept
  generalize run (itemStep w) (itemStep w (run (itemStep w) ⟨∅, ∅, links⟩ before) (.upsert item)) later = t at ho' hd' hkept
  obtain ⟨i, hi, hid, hsource, hstate⟩ := hd'
  have hget : ((storeOf w t).items.get item.attentionId).map AttentionRow.state = some i.state := by
    have hrow : rowOf w i ∈ (storeOf w t).items.rows := List.mem_map.2 ⟨i, hi, rfl⟩
    rw [← hid, show (storeOf w t).items.get i.attentionId = some (rowOf w i) from Table.get_of_mem hrow]
    rfl
  unfold rowStep
  rw [hget, performRows_image, Option.some.injEq]
  by_cases heq : i = item
  · subst heq
    rw [show performItems w (.upsert i) t = (.ok i, t) from upsert_again hkept ho' hi]
    exact ⟨fun _ => state_of_new ho'.isNew, fun _ => ⟨rfl, rfl⟩⟩
  · rw [show (performItems w (.upsert item) t).1.isOk = false from upsert_changed hkept ho' hi hsource heq]
    exact ⟨fun h => absurd h.1 Bool.false_ne_true, fun h => absurd h (hstate.resolve_left heq)⟩

/-! ## Two items opened, one acknowledged -/

theorem sharedItems_attention (w : Wire) (calls : List AttentionCall) :
    sharedItems w (calls.map .attention) = run (itemStep w) ⟨∅, ∅, ∅⟩ calls := by
  have hrun : ∀ (calls : List AttentionCall) (t : AttentionTables),
      run (sharedItemStep w) t (calls.map .attention) = run (itemStep w) t calls := by
    intro calls
    induction calls with
    | nil => exact fun t => rfl
    | cons c calls ih => exact fun t => ih (itemStep w t c)
  exact hrun calls ⟨∅, ∅, ∅⟩

theorem attentionAfter_shared (w : Wire) (calls : List AttentionCall) :
    attentionAfter w ∅ calls = sharedAfter w (calls.map .attention) := by
  rw [sharedAfter_eq, sharedItems_attention]
  exact rows_of_run w ∅ calls

theorem opened_first {w : Wire} {item : AttentionItem} (h : FreshItem w ⟨∅, ∅, ∅⟩ item) :
    (performRows w (.upsert item) (attentionAfter w ∅ [])).1.isOk = true := by
  obtain ⟨t, hcall, -⟩ := upsert_fresh sound_empty h
  rw [show attentionAfter w ∅ [] = storeOf w ⟨∅, ∅, ∅⟩ from (storeOf_new w ∅).symm, performRows_image]
  show (upsertSourceAttention w item ⟨∅, ∅, ∅⟩).1.isOk = true
  rw [hcall]
  rfl

theorem retry_refused {w : Wire} {item i : AttentionItem} {later : List AttentionCall} (h : FreshItem w ⟨∅, ∅, ∅⟩ item)
    (hi : i ∈ (sharedItems w ((.upsert item :: later).map .attention)).items.rows) (hsource : i.source = item.source)
    (hne : i ≠ item) : (performRows w (.upsert item) (attentionAfter w ∅ (.upsert item :: later))).1.isOk = false := by
  have hopened := opened_first h
  rw [show attentionAfter w ∅ [] = storeOf w ⟨∅, ∅, ∅⟩ from (storeOf_new w ∅).symm, performRows_image] at hopened
  obtain ⟨hmem, ho⟩ := opened_of_upsert hopened
  obtain ⟨ho, -⟩ := opened_run later ho ⟨item, hmem, rfl, rfl, Or.inl rfl⟩
  have hkept := (sharedItems_run w ((.upsert item :: later).map .attention)).items
  rw [sharedItems_attention] at hi hkept
  rw [attentionAfter_shared, sharedAfter_eq, sharedItems_attention, performRows_image]
  exact upsert_changed hkept ho hi hsource hne

/-- Another item is opened and acknowledged. -/
def networkCalls : List AttentionCall := [.upsert networkItem, .acknowledge "m" 1 12]

theorem networkCalls_rows :
    (attentionAfter acknowledgedWire ∅ ([] ++ .upsert (infrastructureItem "n") :: networkCalls)).items.rows =
      [rowOf acknowledgedWire (infrastructureItem "n"), rowOf acknowledgedWire (networkItem.acknowledged 12)] := by
  have hcalls : ([] ++ AttentionCall.upsert (infrastructureItem "n") :: networkCalls).map SharedCall.attention =
      openedPair ++ [.attention (.acknowledge "m" 1 12)] := rfl
  rw [attentionAfter_shared, hcalls, (sharedAfter_rows _ _).1, network_acknowledged_rows]
  rfl

/-- An item is opened again after another one was opened and acknowledged. -/
theorem opening_retried_later :
    rowOf acknowledgedWire (networkItem.acknowledged 12) ∈
      (attentionAfter acknowledgedWire ∅ ([] ++ .upsert (infrastructureItem "n") :: networkCalls)).items.rows ∧
    (performRows acknowledgedWire (.upsert (infrastructureItem "n"))
      (attentionAfter acknowledgedWire ∅ ([] ++ .upsert (infrastructureItem "n") :: networkCalls))).1.isOk = true ∧
    rowStep acknowledgedWire
      (attentionAfter acknowledgedWire ∅ ([] ++ .upsert (infrastructureItem "n") :: networkCalls))
      (.upsert (infrastructureItem "n")) =
      attentionAfter acknowledgedWire ∅ ([] ++ .upsert (infrastructureItem "n") :: networkCalls) := by
  have hmem : rowOf acknowledgedWire (infrastructureItem "n") ∈
      (attentionAfter acknowledgedWire ∅ ([] ++ .upsert (infrastructureItem "n") :: networkCalls)).items.rows := by
    rw [networkCalls_rows]
    exact List.mem_cons_self
  have hopen := congrArg (Option.map AttentionRow.state) (Table.get_of_mem hmem)
  have hretried := (opening_retried_iff acknowledgedWire ∅ [] networkCalls (infrastructureItem "n")
    (opened_first fresh_infrastructure)).2 hopen
  refine ⟨?_, hretried⟩
  rw [networkCalls_rows]
  exact List.mem_cons_of_mem _ List.mem_cons_self

theorem infrastructure_unobstructed :
    Unobstructed (sharedItems acknowledgedWire [.attention (.upsert (infrastructureItem "n"))]).links
      (acknowledgementLink acknowledgedWire (infrastructureItem "n").attentionId 7) := by
  refine unobstructed_own (openedLink_valid fresh_infrastructure) fun l hl => ?_
  rw [infrastructure_rows.2, List.mem_singleton] at hl
  rw [hl, infrastructure_digests.acknowledged]
  refine ⟨?_, Or.inl rfl⟩
  rw [infrastructure_digests.opened rfl]
  exact linkId_ne (by decide)

theorem infrastructure_acknowledged_rows :
    (sharedItems acknowledgedWire [.attention (.upsert (infrastructureItem "n")),
      .attention (.acknowledge "n" 1 7)]).items.rows = [(infrastructureItem "n").acknowledged 7] := by
  have hmem : infrastructureItem "n" ∈
      (sharedItems acknowledgedWire [.attention (.upsert (infrastructureItem "n"))]).items.rows := by
    rw [infrastructure_rows.1]
    exact List.mem_cons_self
  have hapart : DigestsApart acknowledgedWire (infrastructureItem "n").attentionId := by
    refine infrastructure_digests.apart ?_ (by decide)
    rw [allZero_ofNat, allZero_ofNat, allZero_ofNat]
    decide
  have hvalid : (acknowledgementLink acknowledgedWire (infrastructureItem "n").attentionId 7).validate = .ok () :=
    (acknowledgementLink_valid_iff infrastructureItem_safe hapart).2 (by decide)
  have hrows := @shared_acknowledged acknowledgedWire [.attention (.upsert (infrastructureItem "n"))]
    [.attention (.upsert (infrastructureItem "n")), .attention (.acknowledge "n" 1 7)] (infrastructureItem "n") 7 rfl hmem
    rfl ⟨hvalid, infrastructure_unobstructed⟩
  rw [hrows, infrastructure_rows.1]
  rfl

/-- **An acknowledged item cannot be opened again**: the retry of an accepted opening is refused. -/
theorem acknowledged_opening_refused :
    (performRows acknowledgedWire (.upsert (infrastructureItem "n")) (attentionAfter acknowledgedWire ∅ [])).1.isOk =
      true ∧
    (performRows acknowledgedWire (.upsert (infrastructureItem "n")) (attentionAfter acknowledgedWire ∅
      [.upsert (infrastructureItem "n"), .acknowledge "n" 1 7])).1.isOk = false := by
  have hmem : (infrastructureItem "n").acknowledged 7 ∈ (sharedItems acknowledgedWire
      ([.upsert (infrastructureItem "n"), .acknowledge "n" 1 7].map .attention)).items.rows := by
    rw [show [.upsert (infrastructureItem "n"), .acknowledge "n" 1 7].map SharedCall.attention =
      [.attention (.upsert (infrastructureItem "n")), .attention (.acknowledge "n" 1 7)] from rfl,
      infrastructure_acknowledged_rows]
    exact List.mem_cons_self
  exact ⟨opened_first fresh_infrastructure, retry_refused fresh_infrastructure hmem rfl (by decide)⟩

end Control
end Bildr
