import Bildr.AttentionLedger
/-!
# AttentionShared — attention in a store that others use

The links of attention stand in one table with the links of all other records, a call on attention may run between any
two transactions that record other links, and the items of a run go with the run.  The items keep what they keep alone
(`sharedItems_run`): ids are identifiers, and the events of the source of an open item are openings.
-/
namespace Bildr
namespace Control

open Improvement (isSafeOperatorControlIdentifier)
open Trace (run)

/-- A call on attention, a transaction of others that records links, or the deletion of a run. -/
inductive SharedCall
  | attention (c : AttentionCall)
  | links (b : Batch)
  | deleteRun (runId : String)

/-- `delete_run`: the events of the run's items and the items, not their links. -/
def deleteRun (s : AttentionStore) (runId : String) : AttentionStore where
  items := s.items.delete (fun r => r.payload.runId == some runId)
  events := s.events.delete (fun e => s.items.rows.any (fun r => r.payload.runId == some runId && r.id == e.attentionId))
  links := s.links

def sharedStep (w : Wire) (s : AttentionStore) : SharedCall → AttentionStore
  | .attention c     => rowStep w s c
  | .links b         => { s with links := transact s.links b }
  | .deleteRun runId => deleteRun s runId

def deleteItems (t : AttentionTables) (runId : String) : AttentionTables where
  items := t.items.delete (fun i => i.runId == some runId)
  events := t.events.delete (fun e => t.items.rows.any (fun i => i.runId == some runId && i.attentionId == e.attentionId))
  links := t.links

def sharedItemStep (w : Wire) (t : AttentionTables) : SharedCall → AttentionTables
  | .attention c     => itemStep w t c
  | .links b         => { t with links := transact t.links b }
  | .deleteRun runId => deleteItems t runId

def sharedAfter (w : Wire) (calls : List SharedCall) : AttentionStore := run (sharedStep w) (newAttention ∅) calls

def sharedItems (w : Wire) (calls : List SharedCall) : AttentionTables := run (sharedItemStep w) ⟨∅, ∅, ∅⟩ calls

theorem deleteRun_image (w : Wire) (t : AttentionTables) (runId : String) :
    deleteRun (storeOf w t) runId = storeOf w (deleteItems t runId) := by
  have hitems : (storeOf w t).items.delete (fun r => r.payload.runId == some runId) =
      (storeOf w (deleteItems t runId)).items := by
    apply Table.ext_rows
    show (t.items.rows.map (rowOf w)).filter _ = (t.items.rows.filter _).map (rowOf w)
    rw [List.filter_map]
    rfl
  have hevents : (deleteRun (storeOf w t) runId).events = (storeOf w (deleteItems t runId)).events := by
    apply Table.ext_rows
    show (t.events.rows.map (eventRowOf w)).filter _ = (t.events.rows.filter _).map (eventRowOf w)
    rw [List.filter_map, items_storeOf]
    simp only [List.any_map]
    rfl
  show (⟨_, (deleteRun (storeOf w t) runId).events, _⟩ : AttentionStore) = _
  rw [hitems, hevents]
  rfl

theorem sharedStep_image (w : Wire) (t : AttentionTables) (c : SharedCall) :
    sharedStep w (storeOf w t) c = storeOf w (sharedItemStep w t c) := by
  cases c with
  | attention c => exact congrArg Prod.snd (performRows_image w t c)
  | links b => rfl
  | deleteRun runId => exact deleteRun_image w t runId

theorem sharedRun_image (w : Wire) (t : AttentionTables) (calls : List SharedCall) :
    run (sharedStep w) (storeOf w t) calls = storeOf w (run (sharedItemStep w) t calls) := by
  induction calls generalizing t with
  | nil => rfl
  | cons c calls ih => rw [Trace.run_cons, Trace.run_cons, sharedStep_image, ih]

theorem sharedAfter_eq (w : Wire) (calls : List SharedCall) : sharedAfter w calls = storeOf w (sharedItems w calls) := by
  unfold sharedAfter sharedItems
  rw [← sharedRun_image, storeOf_new]

/-! ## The events of a source -/

def NamesPayload (e : AttentionEvent) : Prop := e.source = e.payload.source ∧ e.attentionId = e.payload.attentionId

theorem Tells.named {e : AttentionEvent} {i : AttentionItem} (h : Tells e i) : NamesPayload e :=
  ⟨h.source.trans (congrArg AttentionItem.source h.payload.symm),
    h.item.trans (congrArg AttentionItem.attentionId h.payload.symm)⟩

theorem Edited.named {t t' : AttentionTables} (he : Edited t t') (h : ∀ e ∈ t.events.rows, NamesPayload e) :
    ∀ e ∈ t'.events.rows, NamesPayload e := by
  have hmore : ∀ {e : AttentionEvent} {i : AttentionItem}, t'.events.rows = t.events.rows ++ [e] → Tells e i →
      ∀ e' ∈ t'.events.rows, NamesPayload e' := by
    intro e i hevents htells e' he'
    rw [hevents, List.mem_append, List.mem_singleton] at he'
    rcases he' with he' | rfl
    · exact h e' he'
    · exact htells.named
  cases he with
  | same _ hevents => exact hevents ▸ h
  | opened i e _ _ _ _ _ _ hevents htells => exact hmore hevents htells
  | changed i next e _ _ _ _ _ _ _ hevents htells => exact hmore hevents htells

/-- Every event is of an item, and an open item is the first version of a source that was opened. -/
structure OpenItems (t : AttentionTables) : Prop where
  named : ∀ e ∈ t.events.rows, NamesPayload e
  owned : ∀ e ∈ t.events.rows, ∃ i ∈ t.items.rows, i.attentionId = e.attentionId ∧ i.source = e.source
  first : ∀ i ∈ t.items.rows, i.state = .open → i.version = 1 ∧ ∀ e ∈ t.events.rows, e.source = i.source → e.kind = .opened

theorem OpenItems.step {t t' : AttentionTables} (h : OpenItems t) (hkept : KeptItems t) (he : Edited t t') :
    OpenItems t' := by
  have hnamed := he.named h.named
  cases he with
  | same hitems hevents => exact ⟨hnamed, hitems ▸ hevents ▸ h.owned, hitems ▸ hevents ▸ h.first⟩
  | opened i e hvalid hisNew hfresh halone hidle hitems hevents htells =>
    have hmem : ∀ j, j ∈ t'.items.rows ↔ j ∈ t.items.rows ∨ j = i := fun j => by
      rw [hitems, List.mem_append, List.mem_singleton]
    have hevent : ∀ e', e' ∈ t'.events.rows ↔ e' ∈ t.events.rows ∨ e' = e := fun e' => by
      rw [hevents, List.mem_append, List.mem_singleton]
    have hsource : e.source = i.source := htells.source
    have hkind : e.kind = .opened := by
      have hentered := htells.kind
      rw [state_of_new hisNew] at hentered
      exact (Option.some.inj hentered).symm
    refine ⟨hnamed, fun e' he' => ?_, fun j hj hopen => ?_⟩
    · rcases (hevent e').1 he' with he' | rfl
      · obtain ⟨j, hj, hown⟩ := h.owned e' he'
        exact ⟨j, (hmem j).2 (Or.inl hj), hown⟩
      · exact ⟨i, (hmem i).2 (Or.inr rfl), htells.item.symm, hsource.symm⟩
    · rcases (hmem j).1 hj with hj | rfl
      · obtain ⟨hversion, hfirst⟩ := h.first j hj hopen
        refine ⟨hversion, fun e' he' hsame => ?_⟩
        rcases (hevent e').1 he' with he' | rfl
        · exact hfirst e' he' hsame
        · exact hkind
      · have hversion : j.version = 1 := by
          unfold AttentionItem.isNew at hisNew
          simp only [Bool.and_eq_true, beq_iff_eq] at hisNew
          exact hisNew.1.1.2
        refine ⟨hversion, fun e' he' hsame => ?_⟩
        rcases (hevent e').1 he' with he' | rfl
        · obtain ⟨k, hk, -, hks⟩ := h.owned e' he'
          exact absurd (hks.trans hsame) (halone k hk)
        · exact hkind
  | changed i next e hstored hvalid hactive hleft hnext hversion hitems hevents htells =>
    have hi : i ∈ t.items.rows := Table.mem_of_get hstored
    have hid : i.attentionId = next.attentionId := Table.key_of_get hstored
    have hevent : ∀ e', e' ∈ t'.events.rows ↔ e' ∈ t.events.rows ∨ e' = e := fun e' => by
      rw [hevents, List.mem_append, List.mem_singleton]
    have hsource : e.source = i.source := htells.source.trans hnext
    refine ⟨hnamed, fun e' he' => ?_, fun j hj hopen => ?_⟩
    · have hitem : ∃ j ∈ t.items.rows, j.attentionId = e'.attentionId ∧ j.source = e'.source := by
        rcases (hevent e').1 he' with he' | rfl
        · exact h.owned e' he'
        · exact ⟨i, hi, hid.trans htells.item.symm, hsource.symm⟩
      obtain ⟨j, hj, hown⟩ := hitem
      by_cases heq : j.attentionId = next.attentionId
      · obtain rfl : j = i := List.inj_on_of_nodup_map t.items.nodup hj hi (heq.trans hid.symm)
        exact ⟨next, (hitems next).2 (Or.inl rfl), hid ▸ hown.1, hnext.trans hown.2⟩
      · exact ⟨j, (hitems j).2 (Or.inr ⟨hj, heq⟩), hown⟩
    · rcases (hitems j).1 hj with rfl | ⟨hj, hne⟩
      · exact absurd hopen hleft
      · obtain ⟨hone, hfirst⟩ := h.first j hj hopen
        refine ⟨hone, fun e' he' hsame => ?_⟩
        rcases (hevent e').1 he' with he' | rfl
        · exact hfirst e' he' hsame
        · have hji : j = i := hkept.sources j hj i hi (hsame.symm.trans hsource)
          exact absurd (hji ▸ hid) hne

/-! ## The deletion of a run -/

section Delete
variable {t : AttentionTables} {runId : String}

theorem mem_deleteItems {i : AttentionItem} :
    i ∈ (deleteItems t runId).items.rows ↔ i ∈ t.items.rows ∧ i.runId ≠ some runId := by
  show i ∈ t.items.rows.filter _ ↔ _
  rw [List.mem_filter, Bool.not_eq_true', beq_eq_false_iff_ne]

theorem mem_deleteEvents (h : OpenItems t) {e : AttentionEvent} : e ∈ (deleteItems t runId).events.rows ↔
    e ∈ t.events.rows ∧ ∃ i ∈ (deleteItems t runId).items.rows, i.attentionId = e.attentionId := by
  show e ∈ t.events.rows.filter _ ↔ _
  rw [List.mem_filter, Bool.not_eq_true', List.any_eq_false]
  refine and_congr_right fun he => ⟨fun hnone => ?_, fun ⟨i, hi, hid⟩ j hj hgone => ?_⟩
  · obtain ⟨i, hi, hid, -⟩ := h.owned e he
    have hstays := hnone i hi
    rw [Bool.and_eq_true, beq_iff_eq, beq_iff_eq] at hstays
    exact ⟨i, mem_deleteItems.2 ⟨hi, fun hrun => hstays ⟨hrun, hid⟩⟩, hid⟩
  · rw [Bool.and_eq_true, beq_iff_eq, beq_iff_eq] at hgone
    obtain ⟨hi, hrun⟩ := mem_deleteItems.1 hi
    obtain rfl : i = j := List.inj_on_of_nodup_map t.items.nodup hi hj (hid.trans hgone.2.symm)
    exact hrun hgone.1

theorem eventsOf_delete (h : OpenItems t) {i : AttentionItem} (hi : i ∈ (deleteItems t runId).items.rows) :
    eventsOf (deleteItems t runId) i.attentionId = eventsOf t i.attentionId := by
  show (t.events.rows.filter _).filter _ = t.events.rows.filter _
  rw [List.filter_filter]
  refine List.filter_congr fun e he => ?_
  by_cases hid : e.attentionId = i.attentionId
  · have hstays := (@mem_deleteEvents t runId h e).2 ⟨he, i, hi, hid.symm⟩
    rw [(List.mem_filter.1 hstays).2, Bool.and_true]
  · rw [beq_false_of_ne hid, Bool.false_and]

theorem KeptItems.delete (h : KeptItems t) (ho : OpenItems t) : KeptItems (deleteItems t runId) where
  valid := fun i hi => h.valid i (mem_deleteItems.1 hi).1
  sources := fun i hi j hj => h.sources i (mem_deleteItems.1 hi).1 j (mem_deleteItems.1 hj).1
  oneActive := fun i hi j hj => h.oneActive i (mem_deleteItems.1 hi).1 j (mem_deleteItems.1 hj).1
  numbered := fun i hi => by
    rw [eventsOf_delete ho hi]
    exact h.numbered i (mem_deleteItems.1 hi).1
  current := fun i hi => by
    rw [eventsOf_delete ho hi]
    exact h.current i (mem_deleteItems.1 hi).1
  owned := fun e he => ((mem_deleteEvents ho).1 he).2

theorem OpenItems.delete (h : OpenItems t) : OpenItems (deleteItems t runId) where
  named := fun e he => h.named e ((mem_deleteEvents h).1 he).1
  owned := fun e he => by
    obtain ⟨he, i, hi, hid⟩ := (mem_deleteEvents h).1 he
    obtain ⟨j, hj, hjd, hsource⟩ := h.owned e he
    obtain rfl : i = j := List.inj_on_of_nodup_map t.items.nodup (mem_deleteItems.1 hi).1 hj (hid.trans hjd.symm)
    exact ⟨i, hi, hid, hsource⟩
  first := fun i hi hopen => by
    obtain ⟨hversion, hfirst⟩ := h.first i (mem_deleteItems.1 hi).1 hopen
    exact ⟨hversion, fun e he => hfirst e ((mem_deleteEvents h).1 he).1⟩

end Delete

/-! ## Runs -/

structure SharedKept (t : AttentionTables) : Prop where
  items : KeptItems t
  opens : OpenItems t
  safe : ∀ i ∈ t.items.rows, isSafeOperatorControlIdentifier i.attentionId = true
  sound : Sound t.links

theorem sharedKept_empty : SharedKept ⟨∅, ∅, ∅⟩ where
  items := keptItems_empty ∅
  opens := ⟨fun _ he => (by cases he), fun _ he => (by cases he), fun _ hi => (by cases hi)⟩
  safe := fun _ hi => by cases hi
  sound := sound_empty

theorem Revises.safe {t t' : AttentionTables} (h : Revises t t')
    (hsafe : ∀ i ∈ t.items.rows, isSafeOperatorControlIdentifier i.attentionId = true) :
    ∀ i ∈ t'.items.rows, isSafeOperatorControlIdentifier i.attentionId = true := by
  cases h with
  | same hitems => exact hitems ▸ hsafe
  | opened i _ hitems _ _ hid =>
    intro j hj
    rw [hitems, List.mem_append, List.mem_singleton] at hj
    rcases hj with hj | rfl
    · exact hsafe j hj
    · exact hid
  | changed i next hstored _ hitems =>
    intro j hj
    rcases (hitems j).1 hj with rfl | ⟨hj, -⟩
    · rw [← Table.key_of_get hstored]
      exact hsafe i (Table.mem_of_get hstored)
    · exact hsafe j hj

theorem SharedKept.step {t : AttentionTables} (h : SharedKept t) (w : Wire) (c : SharedCall) :
    SharedKept (sharedItemStep w t c) := by
  cases c with
  | attention c =>
    exact ⟨h.items.step (performItems_edited w t c), h.opens.step h.items (performItems_edited w t c),
      (performItems_revises w t c).safe h.safe, (performItems_revises w t c).links.2 h.sound⟩
  | links b =>
    exact ⟨⟨h.items.valid, h.items.sources, h.items.oneActive, h.items.numbered, h.items.current, h.items.owned⟩,
      ⟨h.opens.named, h.opens.owned, h.opens.first⟩, h.safe, (transact_sound b h.sound).1⟩
  | deleteRun runId =>
    exact ⟨h.items.delete h.opens, h.opens.delete, fun i hi => h.safe i (mem_deleteItems.1 hi).1, h.sound⟩

theorem sharedItems_run (w : Wire) (calls : List SharedCall) : SharedKept (sharedItems w calls) := by
  have hall : ∀ (calls : List SharedCall) {t : AttentionTables}, SharedKept t → SharedKept (run (sharedItemStep w) t calls) := by
    intro calls
    induction calls with
    | nil => exact fun h => h
    | cons c calls ih => exact fun h => ih (h.step w c)
  exact hall calls sharedKept_empty

theorem shared_append (w : Wire) (calls : List SharedCall) (c : SharedCall) :
    sharedItems w (calls ++ [c]) = sharedItemStep w (sharedItems w calls) c := by
  unfold sharedItems
  rw [Trace.run_append]
  rfl

theorem sharedAfter_append (w : Wire) (calls : List SharedCall) (c : SharedCall) :
    sharedAfter w (calls ++ [c]) = sharedStep w (sharedAfter w calls) c := by
  unfold sharedAfter
  rw [Trace.run_append]
  rfl

/-- **A new item that has nothing in common with the store is taken**, and its link with it. -/
theorem shared_fresh {w : Wire} {before after : List SharedCall} {item : AttentionItem}
    (hafter : after = before ++ [.attention (.upsert item)]) (h : FreshItem w (sharedItems w before) item) :
    (sharedItems w after).items.rows = (sharedItems w before).items.rows ++ [item] ∧
      (sharedItems w after).links.rows = (sharedItems w before).links.rows ++ [openedLink w item] := by
  obtain ⟨t, hcall, hrows⟩ := upsert_fresh (sharedItems_run w before).sound h
  have hstep : sharedItems w after = t := by
    rw [hafter, shared_append]
    exact congrArg Prod.snd hcall
  rw [hstep]
  exact hrows

theorem sharedAfter_rows (w : Wire) (calls : List SharedCall) :
    (sharedAfter w calls).items.rows = (sharedItems w calls).items.rows.map (rowOf w) ∧
      (sharedAfter w calls).links = (sharedItems w calls).links := by
  rw [sharedAfter_eq]
  exact ⟨items_storeOf w _, rfl⟩

end Control
end Bildr
