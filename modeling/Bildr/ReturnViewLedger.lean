import Bildr.ReturnViews
import Bildr.SnapshotFreshness
import Mathlib.Data.List.Pairwise
/-!
# ReturnViewLedger — snapshots and acknowledgements move forward

A history is a list of calls on the store and of acknowledgements.  The stored snapshots are ordered by revision and by
cursors at once, so the snapshot under the present cursors is the newest one; an acknowledgement is bounded by a stored
snapshot and with it by every later answer.  A view whose operator acknowledges a later snapshot between the two locks
of the view is refused.
-/
namespace Bildr
namespace Control

open Trace (run Along run_append run_cons)

/-! ## Histories -/

inductive ViewEvent
  | store (c : StoreCall)
  | advance (operatorId : String) (expectedSnapshotRevision acknowledgedCursor : Nat)

def viewStep (w : CustodyWire) (t : ViewTables) : ViewEvent → ViewTables
  | .store c                     => { t with operator := storeStep w t.operator c }
  | .advance id revision cursor => (advanceReturnViewCursor id revision cursor t).2

def newViews (e : Elsewhere) : ViewTables := ⟨newTables e, ∅⟩

def snapshotAnswer (w : CustodyWire) (t : ViewTables) : ViewEvent → Option (Except StoreError ControlPlaneSnapshot)
  | .store (.compile d)  => some (transaction (compileControlPlaneSnapshot w.toWire d.snapshotId d.now) t.operator).1
  | .store (.snapshot d) => some (controlPlaneSnapshot w.toWire d t.operator).1
  | _                    => none

def acknowledged (t : ViewTables) (operatorId : String) : Nat :=
  ((t.cursors.get operatorId).map ReturnViewCursor.acknowledgedCursor).getD 0

def Distinct (w : Wire) (t : OperatorTables) : Prop :=
  ∀ r ∈ t.snapshots.rows, r.sourceCursorsSha256 = (w.digestJson (cursorsJson (cursor t))).hex →
    r.payload.sourceCursors = cursor t

def Uncollided (w : CustodyWire) (t : ViewTables) : ViewEvent → Prop
  | .store (.compile _)  => Distinct w.toWire t.operator
  | .store (.snapshot d) => Distinct w.toWire (refreshControlPlaneProjections w.toWire d t.operator).2
  | _                    => True

/-! ## The order of the snapshots -/

structure Before (a b : SnapshotRow) : Prop where
  revision : a.payload.revision < b.payload.revision
  cursors : a.payload.sourceCursors ≤ b.payload.sourceCursors
  apart : ¬ (a.payload.eventCursor = b.payload.eventCursor ∧ a.sourceCursorsSha256 = b.sourceCursorsSha256)

structure Forward (w : Wire) (t : OperatorTables) : Prop where
  ordered : t.snapshots.rows.Pairwise Before
  reached : ∀ r ∈ t.snapshots.rows, r.payload.sourceCursors ≤ cursor t
  event : ∀ r ∈ t.snapshots.rows, r.payload.eventCursor = r.payload.sourceCursors .domainEvents
  stamped : ∀ r ∈ t.snapshots.rows, r.sourceCursorsSha256 = (w.digestJson (cursorsJson r.payload.sourceCursors)).hex
  fits : ∀ r ∈ t.snapshots.rows, fitsI64 r.payload.eventCursor = true

theorem toI64_fits {n : Nat} {field : String} {i : Int} (h : toI64 n field = .ok i) : fitsI64 n = true := by
  unfold toI64 at h
  split at h
  · assumption
  · cases h

section Forward
variable {w : Wire} {t t' : OperatorTables}

theorem Forward.compare (h : Forward w t) {a b : SnapshotRow} (ha : a ∈ t.snapshots.rows) (hb : b ∈ t.snapshots.rows) :
    a = b ∨ Before a b ∨ Before b a := by
  have hsymm : Std.Symm (fun a b : SnapshotRow => a = b ∨ Before a b ∨ Before b a) := by
    refine ⟨?_⟩
    rintro x y (rfl | hxy | hyx)
    · exact Or.inl rfl
    · exact Or.inr (Or.inr hxy)
    · exact Or.inr (Or.inl hyx)
  have hpair : t.snapshots.rows.Pairwise (fun a b => a = b ∨ Before a b ∨ Before b a) :=
    h.ordered.imp (fun hab => Or.inr (Or.inl hab))
  have hrefl : ∀ x ∈ t.snapshots.rows, x = x ∨ Before x x ∨ Before x x := fun _ _ => Or.inl rfl
  exact List.Pairwise.forall_of_forall (R := fun a b => a = b ∨ Before a b ∨ Before b a) hrefl hpair ha hb

theorem Forward.cursors_le (h : Forward w t) {a b : SnapshotRow} (ha : a ∈ t.snapshots.rows) (hb : b ∈ t.snapshots.rows)
    (hle : a.payload.revision ≤ b.payload.revision) : a.payload.sourceCursors ≤ b.payload.sourceCursors := by
  rcases h.compare ha hb with rfl | hab | hba
  · exact le_rfl
  · exact hab.cursors
  · have := hba.revision
    omega

theorem Forward.event_le (h : Forward w t) {a b : SnapshotRow} (ha : a ∈ t.snapshots.rows) (hb : b ∈ t.snapshots.rows)
    (hle : a.payload.revision ≤ b.payload.revision) : a.payload.eventCursor ≤ b.payload.eventCursor := by
  rw [h.event a ha, h.event b hb]
  exact h.cursors_le ha hb hle .domainEvents

theorem Forward.newest (h : Forward w t) {r q : SnapshotRow} (hr : r ∈ t.snapshots.rows) (hq : q ∈ t.snapshots.rows)
    (hpresent : r.payload.sourceCursors = cursor t) : q.payload.revision ≤ r.payload.revision := by
  rcases h.compare hr hq with rfl | hrq | hqr
  · exact le_rfl
  · -- a later one would stand under the same cursors
    have hsame : r.payload.sourceCursors = q.payload.sourceCursors :=
      le_antisymm hrq.cursors (hpresent ▸ h.reached q hq)
    refine absurd ⟨?_, ?_⟩ hrq.apart
    · rw [h.event r hr, h.event q hq, hsame]
    · rw [h.stamped r hr, h.stamped q hq, hsame]
  · exact hqr.revision.le

theorem Forward.step (h : Forward w t) (hsnapshots : t'.snapshots = t.snapshots) (hcursor : cursor t ≤ cursor t') :
    Forward w t' := by
  obtain ⟨hordered, hreached, hevent, hstamped, hfits⟩ := h
  rw [← hsnapshots] at hordered hreached hevent hstamped hfits
  exact ⟨hordered, fun r hr => (hreached r hr).trans hcursor, hevent, hstamped, hfits⟩

theorem compile_ok {id : String} {now : Int} {s : ControlPlaneSnapshot}
    (h : compileControlPlaneSnapshot w id now t = .ok (s, t')) :
    fitsI64 (cursor t .domainEvents) = true ∧
    ((t' = t ∧ ∃ r ∈ t.snapshots.rows, r.payload = s ∧
        r.sourceCursorsSha256 = (w.digestJson (cursorsJson (cursor t))).hex) ∨
      ∃ rows u, s = snapshotOf w id (nextRevision t.snapshots) now (cursor t) rows t.elsewhere ∧
        t' = { t with snapshots := u } ∧
        u.rows = t.snapshots.rows ++ [⟨(w.digestJson (cursorsJson (cursor t))).hex, s⟩] ∧
        ∀ r ∈ t.snapshots.rows, ¬ (r.payload.eventCursor = cursor t .domainEvents ∧
          r.sourceCursorsSha256 = (w.digestJson (cursorsJson (cursor t))).hex)) := by
  unfold compileControlPlaneSnapshot at h
  obtain ⟨c, hc, h⟩ := bind_ok h
  obtain rfl := sourceCursors_ok hc
  obtain ⟨i, hi, h⟩ := bind_ok h
  refine ⟨toI64_fits hi, ?_⟩
  cases hf : t.snapshots.rows.find? (fun r => r.payload.eventCursor == cursor t .domainEvents &&
      r.sourceCursorsSha256 == (w.digestJson (cursorsJson (cursor t))).hex) with
  | some r =>
    simp only [hf] at h
    obtain ⟨s', hs, h⟩ := bind_ok h
    cases h
    unfold checkedSnapshot at hs
    obtain ⟨-, hs⟩ := ensure_bind_ok.1 hs
    obtain ⟨-, hs⟩ := ensure_bind_ok.1 hs
    cases hs
    have hfound := List.find?_some hf
    rw [Bool.and_eq_true, beq_iff_eq, beq_iff_eq] at hfound
    exact Or.inl ⟨rfl, r, List.mem_of_find?_eq_some hf, rfl, hfound.2⟩
  | none =>
    simp only [hf] at h
    obtain ⟨rows, -, h⟩ := bind_ok h
    obtain ⟨-, h⟩ := bind_unit_ok.1 h
    obtain ⟨u, hu, h⟩ := bind_ok h
    cases h
    unfold insertSnapshot require at hu
    obtain ⟨-, hu⟩ := ensure_bind_ok.1 hu
    obtain ⟨-, hu⟩ := ensure_bind_ok.1 hu
    refine Or.inr ⟨rows, u, rfl, rfl, (insertRow_ok_iff.1 hu).2, fun r hr hsame => ?_⟩
    exact List.find?_eq_none.1 hf r hr (by simp [hsame.1, hsame.2])

/-- **A compilation keeps the order and answers with the newest snapshot.** -/
theorem Forward.compile (h : Forward w t) (hd : Distinct w t) {id : String} {now : Int} {s : ControlPlaneSnapshot}
    (hs : compileControlPlaneSnapshot w id now t = .ok (s, t')) :
    Forward w t' ∧ ∃ r ∈ t'.snapshots.rows, r.payload = s ∧ ∀ q ∈ t'.snapshots.rows, q.payload.revision ≤ s.revision := by
  obtain ⟨hfits, ⟨rfl, r, hr, rfl, hsha⟩ | ⟨rows, u, hsnapshot, rfl, hu, hnone⟩⟩ := compile_ok hs
  · exact ⟨h, r, hr, rfl, fun q hq => h.newest hr hq (hd r hr hsha)⟩
  · -- a new snapshot stands under the present cursors and the next revision
    have hcursors : s.sourceCursors = cursor t := by rw [hsnapshot]; rfl
    have hrevision : s.revision = nextRevision t.snapshots := by rw [hsnapshot]; rfl
    have hevent : s.eventCursor = cursor t .domainEvents := by rw [hsnapshot]; rfl
    have hlater : ∀ q ∈ t.snapshots.rows, q.payload.revision < s.revision := by
      intro q hq
      have hle := Table.le_maxOf (fun r : SnapshotRow => r.payload.revision) hq
      rw [hrevision]
      unfold nextRevision
      omega
    have hmem : ∀ {P : SnapshotRow → Prop}, (∀ r ∈ t.snapshots.rows, P r) →
        P ⟨(w.digestJson (cursorsJson (cursor t))).hex, s⟩ → ∀ r ∈ u.rows, P r := by
      intro P hold hnew
      rw [hu]
      exact List.forall_mem_append.2 ⟨hold, List.forall_mem_singleton.2 hnew⟩
    refine ⟨⟨?_, ?_, ?_, ?_, ?_⟩, ⟨(w.digestJson (cursorsJson (cursor t))).hex, s⟩, ?_, rfl, ?_⟩
    · rw [hu]
      refine List.pairwise_append.2 ⟨h.ordered, List.pairwise_singleton _ _, fun a ha b hb => ?_⟩
      obtain rfl := List.mem_singleton.1 hb
      exact ⟨hlater a ha, hcursors ▸ h.reached a ha, fun hsame => hnone a ha ⟨hsame.1.trans hevent, hsame.2⟩⟩
    · exact hmem h.reached hcursors.le
    · exact hmem h.event (by rw [hevent, hcursors])
    · exact hmem h.stamped (by rw [hcursors])
    · exact hmem h.fits (hevent ▸ hfits)
    · rw [hu]
      exact List.mem_append_right _ (List.mem_singleton.2 rfl)
    · exact hmem (fun q hq => (hlater q hq).le) le_rfl

end Forward

/-! ## Every call -/

section Calls
variable {w : CustodyWire} {t : OperatorTables}

theorem storeStep_forward (w : CustodyWire) (t : OperatorTables) {call : StoreCall} (h : call.request = false) :
    (storeStep w t call).snapshots = t.snapshots ∧ cursor t ≤ cursor (storeStep w t call) := by
  by_cases hc : ∃ c, call = .control c
  · obtain ⟨c, rfl⟩ := hc
    exact ⟨rfl, control_cursor (control_forward w t.control c)⟩
  · obtain ⟨hsnapshots, haccounts⟩ := storeStep_accounts w t call h (fun c hcall => absurd ⟨c, hcall⟩ hc)
    exact ⟨hsnapshots, haccounts.forward⟩

theorem Forward.refresh (h : Forward w.toWire t) (d : SnapshotDraw) :
    Forward w.toWire (refreshControlPlaneProjections w.toWire d t).2 :=
  h.step (refresh_blind w.toWire d t).2 (refresh_accounts w.toWire d t).forward

theorem Forward.compiled (h : Forward w.toWire t) (hd : Distinct w.toWire t) (id : String) (now : Int) :
    Forward w.toWire (transaction (compileControlPlaneSnapshot w.toWire id now) t).2 :=
  transaction_after (P := Forward w.toWire) h (fun _ _ hs => (h.compile hd hs).1)

theorem snapshot_ok {w : Wire} {d : SnapshotDraw} {s : ControlPlaneSnapshot} (h : (controlPlaneSnapshot w d t).1 = .ok s) :
    ∃ t', compileControlPlaneSnapshot w d.snapshotId d.now (refreshControlPlaneProjections w d t).2 = .ok (s, t') ∧
      (controlPlaneSnapshot w d t).2 = t' := by
  unfold controlPlaneSnapshot at h ⊢
  cases hr : (refreshControlPlaneProjections w d t).1 with
  | error e =>
    rw [andThen_error hr] at h
    cases h
  | ok a =>
    rw [andThen_ok hr] at h ⊢
    rcases transaction_cases (compileControlPlaneSnapshot w d.snapshotId d.now)
      (refreshControlPlaneProjections w d t).2 with ⟨e, -, hcall⟩ | ⟨s', t', hok, hcall⟩
    · rw [hcall] at h
      cases h
    · rw [hcall] at h ⊢
      cases h
      exact ⟨t', hok, rfl⟩

theorem snapshot_error {w : Wire} {d : SnapshotDraw} {e : StoreError} (h : (controlPlaneSnapshot w d t).1 = .error e) :
    (controlPlaneSnapshot w d t).2 = (refreshControlPlaneProjections w d t).2 := by
  unfold controlPlaneSnapshot at h ⊢
  cases hr : (refreshControlPlaneProjections w d t).1 with
  | error e' => rw [andThen_error hr]
  | ok a =>
    rw [andThen_ok hr] at h ⊢
    exact transaction_error h

theorem Forward.storeStep (h : Forward w.toWire t) {call : StoreCall} {cursors : ReturnViewCursors}
    (hu : Uncollided w ⟨t, cursors⟩ (.store call)) : Forward w.toWire (Control.storeStep w t call) := by
  cases hr : call.request with
  | false =>
    obtain ⟨hsnapshots, hforward⟩ := storeStep_forward w t hr
    exact h.step hsnapshots hforward
  | true =>
    cases call with
    | compile d => exact h.compiled hu d.snapshotId d.now
    | snapshot d =>
      show Forward w.toWire (controlPlaneSnapshot w.toWire d t).2
      cases ha : (controlPlaneSnapshot w.toWire d t).1 with
      | error e =>
        rw [snapshot_error ha]
        exact h.refresh d
      | ok s =>
        obtain ⟨t', hcompile, ht⟩ := snapshot_ok ha
        rw [ht]
        exact ((h.refresh d).compile hu hcompile).1
    | _ => cases hr

theorem Forward.answer {t : ViewTables} (h : Forward w.toWire t.operator) {call : ViewEvent} (hu : Uncollided w t call)
    {s : ControlPlaneSnapshot} (hs : snapshotAnswer w t call = some (.ok s)) :
    ∃ r ∈ (viewStep w t call).operator.snapshots.rows, r.payload = s ∧
      ∀ q ∈ (viewStep w t call).operator.snapshots.rows, q.payload.revision ≤ s.revision := by
  cases call with
  | advance id revision cursor => cases hs
  | store call =>
    cases call with
    | compile d =>
      have hanswer := Option.some.inj hs
      rcases transaction_cases (compileControlPlaneSnapshot w.toWire d.snapshotId d.now) t.operator with
        ⟨e, -, hcall⟩ | ⟨s', t', hok, hcall⟩
      · rw [hcall] at hanswer
        cases hanswer
      · have hafter : (viewStep w t (.store (.compile d))).operator = t' := congrArg Prod.snd hcall
        rw [hcall] at hanswer
        cases hanswer
        rw [hafter]
        exact (h.compile hu hok).2
    | snapshot d =>
      obtain ⟨t', hcompile, ht⟩ := snapshot_ok (Option.some.inj hs)
      have hafter : (viewStep w t (.store (.snapshot d))).operator = t' := ht
      rw [hafter]
      exact ((h.refresh d).compile hu hcompile).2
    | _ => cases hs

end Calls

/-! ## Acknowledgements -/

theorem writeCursor_get {t u : ReturnViewCursors} {c : ReturnViewCursor} (h : writeCursor t c = .ok u) (id : String) :
    u.get id = if id = c.operatorId then some c else t.get id := by
  unfold writeCursor at h
  cases hg : t.get c.operatorId with
  | none =>
    simp only [hg, Option.isSome_none, Bool.false_eq_true, if_false] at h
    exact Table.get_insert (insertRow_ok h) id
  | some r =>
    simp only [hg, Option.isSome_some, if_true, Except.ok.injEq] at h
    rw [← h, Table.get_update]
    by_cases hid : id = c.operatorId
    · have hr : r.operatorId = c.operatorId := Table.key_of_get hg
      rw [if_pos hid, hid, hg]
      simp [hr]
    · rw [if_neg hid]
      cases hi : t.get id with
      | none => rfl
      | some q =>
        have hq : q.operatorId = id := Table.key_of_get hi
        simp [hq, hid]

theorem latest_mem {t : Table SnapshotRow.id} {r : SnapshotRow} (h : latestSnapshot t = some r) : r ∈ t.rows :=
  (List.mem_insertionSort _).1 (List.mem_of_mem_head? h)

theorem advanceBody_ok {id : String} {revision cur : Nat} {c : ReturnViewCursor} {t t' : ViewTables}
    (h : advanceBody id revision cur t = .ok (c, t')) :
    t'.operator = t.operator ∧ acknowledged t id ≤ cur ∧ fitsI64 cur = true ∧
      (∃ r ∈ t.operator.snapshots.rows, cur ≤ r.payload.eventCursor) ∧
      ∀ o, acknowledged t' o = if o = id then cur else acknowledged t o := by
  unfold advanceBody at h
  obtain ⟨-, h⟩ := bind_unit_ok.1 h
  obtain ⟨-, -, h⟩ := bind_ok h
  obtain ⟨i, hi, h⟩ := bind_ok h
  obtain ⟨latest, hlatest, h⟩ := bind_ok h
  obtain ⟨-, h⟩ := ensure_bind_ok.1 h
  obtain ⟨hforward, h⟩ := ensure_bind_ok.1 h
  obtain ⟨hbound, h⟩ := ensure_bind_ok.1 h
  obtain ⟨u, hu, h⟩ := bind_ok h
  cases h
  refine ⟨rfl, ?_, toI64_fits hi, ⟨latest, latest_mem (okOr_ok hlatest), of_decide_eq_true hbound⟩, fun o => ?_⟩
  · unfold acknowledged
    cases hg : t.cursors.get id with
    | none => exact Nat.zero_le _
    | some q =>
      rw [hg, Option.all_some, decide_eq_true_eq] at hforward
      exact hforward
  · unfold acknowledged
    rw [writeCursor_get hu o]
    split <;> rfl

def Acknowledges (t : ViewTables) : Prop :=
  ∀ id, fitsI64 (acknowledged t id) = true ∧
    (acknowledged t id = 0 ∨ ∃ r ∈ t.operator.snapshots.rows, acknowledged t id ≤ r.payload.eventCursor)

def Accepts (t : ViewTables) (operatorId : String) (revision cur : Nat) : Prop :=
  ∃ c, (advanceReturnViewCursor operatorId revision cur t).1 = .ok c

theorem advance_cases (t : ViewTables) (id : String) (revision cur : Nat) :
    (¬ Accepts t id revision cur ∧ (advanceReturnViewCursor id revision cur t).2 = t) ∨
    (Accepts t id revision cur ∧
      ∃ c, advanceBody id revision cur t = .ok (c, (advanceReturnViewCursor id revision cur t).2)) := by
  unfold Accepts advanceReturnViewCursor
  rcases transaction_cases (advanceBody id revision cur) t with ⟨e, -, h⟩ | ⟨c, t', hok, h⟩
  · rw [h]
    refine Or.inl ⟨?_, rfl⟩
    rintro ⟨c, hc⟩
    cases hc
  · rw [h]
    exact Or.inr ⟨⟨c, rfl⟩, c, hok⟩

theorem compile_keeps {w : Wire} {id : String} {now : Int} {t : OperatorTables} {r : SnapshotRow}
    (hr : r ∈ t.snapshots.rows) : r ∈ (transaction (compileControlPlaneSnapshot w id now) t).2.snapshots.rows := by
  refine transaction_after (P := fun t' : OperatorTables => r ∈ t'.snapshots.rows) hr (fun s t' hs => ?_)
  obtain ⟨-, ⟨rfl, -⟩ | ⟨rows, u, -, rfl, hu, -⟩⟩ := compile_ok hs
  · exact hr
  · exact hu ▸ List.mem_append_left _ hr

theorem storeStep_keeps (w : CustodyWire) (t : OperatorTables) (call : StoreCall) {r : SnapshotRow}
    (hr : r ∈ t.snapshots.rows) : r ∈ (storeStep w t call).snapshots.rows := by
  cases hrequest : call.request with
  | false =>
    rw [(storeStep_forward w t hrequest).1]
    exact hr
  | true =>
    cases call with
    | compile d => exact compile_keeps hr
    | snapshot d =>
      have hrefreshed : r ∈ (refreshControlPlaneProjections w.toWire d t).2.snapshots.rows := by
        rw [(refresh_blind w.toWire d t).2]
        exact hr
      show r ∈ (controlPlaneSnapshot w.toWire d t).2.snapshots.rows
      unfold controlPlaneSnapshot
      cases ha : (refreshControlPlaneProjections w.toWire d t).1 with
      | error e =>
        rw [andThen_error ha]
        exact hrefreshed
      | ok a =>
        rw [andThen_ok ha]
        exact compile_keeps hrefreshed
    | _ => cases hrequest

/-- The order of the snapshots and the bound of the acknowledgements. -/
structure ViewLedger (w : CustodyWire) (t : ViewTables) : Prop where
  forward : Forward w.toWire t.operator
  acknowledges : Acknowledges t

theorem viewLedger_new (w : CustodyWire) (e : Elsewhere) : ViewLedger w (newViews e) := by
  refine ⟨⟨List.Pairwise.nil, ?_, ?_, ?_, ?_⟩, fun id => ⟨rfl, Or.inl rfl⟩⟩
  all_goals
    intro r hr
    exact absurd hr List.not_mem_nil

theorem ViewLedger.step {w : CustodyWire} (t : ViewTables) (call : ViewEvent) (h : ViewLedger w t)
    (hu : Uncollided w t call) : ViewLedger w (viewStep w t call) := by
  cases call with
  | store c =>
    refine ⟨h.forward.storeStep hu, fun id => ⟨(h.acknowledges id).1, ?_⟩⟩
    rcases (h.acknowledges id).2 with hzero | ⟨r, hr, hle⟩
    · exact Or.inl hzero
    · exact Or.inr ⟨r, storeStep_keeps w t.operator c hr, hle⟩
  | advance id revision cur =>
    show ViewLedger w (advanceReturnViewCursor id revision cur t).2
    rcases advance_cases t id revision cur with ⟨-, hsame⟩ | ⟨-, c, hok⟩
    · rw [hsame]
      exact h
    · obtain ⟨hoperator, -, hfits, hbound, hafter⟩ := advanceBody_ok hok
      refine ⟨hoperator ▸ h.forward, fun o => ?_⟩
      rw [hafter o, hoperator]
      by_cases ho : o = id
      · rw [if_pos ho]
        exact ⟨hfits, Or.inr hbound⟩
      · rw [if_neg ho]
        exact h.acknowledges o

theorem ViewLedger.run {w : CustodyWire} {t : ViewTables} {calls : List ViewEvent} (h : ViewLedger w t)
    (hu : Along (viewStep w) (Uncollided w) t calls) : ViewLedger w (run (viewStep w) t calls) :=
  Trace.invariant_of_step (ViewLedger w) ViewLedger.step h hu

theorem acknowledged_step (w : CustodyWire) (t : ViewTables) (call : ViewEvent) (o : String) :
    acknowledged t o ≤ acknowledged (viewStep w t call) o := by
  cases call with
  | store c => exact le_rfl
  | advance id revision cur =>
    show acknowledged t o ≤ acknowledged (advanceReturnViewCursor id revision cur t).2 o
    rcases advance_cases t id revision cur with ⟨-, hsame⟩ | ⟨-, c, hok⟩
    · rw [hsame]
    · obtain ⟨-, hle, -, -, hafter⟩ := advanceBody_ok hok
      rw [hafter o]
      by_cases ho : o = id
      · rw [if_pos ho, ho]
        exact hle
      · rw [if_neg ho]

theorem acknowledged_run (w : CustodyWire) (o : String) : ∀ (calls : List ViewEvent) (t : ViewTables),
    acknowledged t o ≤ acknowledged (run (viewStep w) t calls) o
  | [], _ => le_rfl
  | c :: calls, t => (acknowledged_step w t c o).trans (acknowledged_run w o calls (viewStep w t c))

theorem ViewLedger.acknowledged_le {w : CustodyWire} {t : ViewTables} (h : ViewLedger w t) {call : ViewEvent}
    (hu : Uncollided w t call) {s : ControlPlaneSnapshot} (hs : snapshotAnswer w t call = some (.ok s)) (o : String) :
    acknowledged (viewStep w t call) o ≤ s.eventCursor := by
  obtain ⟨r, hr, rfl, hnewest⟩ := h.forward.answer hu hs
  have hafter := h.step t call hu
  rcases (hafter.acknowledges o).2 with hzero | ⟨q, hq, hle⟩
  · rw [hzero]
    exact Nat.zero_le _
  · exact hle.trans (hafter.forward.event_le hq hr (hnewest q hq))

/-! ## Views -/

theorem bindView_newer {w : Wire} {viewId o : String} {s : ControlPlaneSnapshot} {t : ViewTables}
    (hack : fitsI64 (acknowledged t o) = true) (hs : fitsI64 s.eventCursor = true) :
    bindView w viewId o s t.cursors t.operator.events = .error acknowledgementIsNewer ↔
      s.eventCursor < acknowledged t o := by
  have hread : (acknowledgement t.cursors o s).acknowledgedCursor = acknowledged t o := by
    unfold acknowledgement acknowledged
    cases t.cursors.get o <;> rfl
  unfold bindView controllerEventRows toI64
  simp only [hread, hack, hs, if_true, ok_bind]
  by_cases hle : acknowledged t o ≤ s.eventCursor
  · simp [hle, Nat.not_lt.2 hle]
  · simp [hle, Nat.not_le.1 hle]

theorem overtaken_iff (w : CustodyWire) (o : String) (n : Nat) : ∀ (calls : List ViewEvent) {t : ViewTables},
    acknowledged t o ≤ n →
    (n < acknowledged (run (viewStep w) t calls) o ↔
      ∃ early revision cur late, calls = early ++ .advance o revision cur :: late ∧
        Accepts (run (viewStep w) t early) o revision cur ∧ n < cur)
  | [], t, h => by
    refine ⟨fun hlt => ?_, fun ⟨early, revision, cur, late, hsplit, _⟩ => ?_⟩
    · exact absurd hlt (Nat.not_lt.2 h)
    · exact absurd hsplit (by simp)
  | c :: calls, t, h => by
    rw [run_cons]
    by_cases hstep : acknowledged (viewStep w t c) o ≤ n
    · rw [overtaken_iff w o n calls hstep]
      constructor
      · rintro ⟨early, revision, cur, late, rfl, haccept, hlt⟩
        exact ⟨c :: early, revision, cur, late, rfl, haccept, hlt⟩
      · rintro ⟨early, revision, cur, late, hsplit, haccept, hlt⟩
        cases early with
        | cons c' early =>
          obtain ⟨rfl, rfl⟩ := List.cons.inj hsplit
          exact ⟨early, revision, cur, late, rfl, haccept, hlt⟩
        | nil =>
          -- an accepted acknowledgement beyond the bound would stand there already
          obtain ⟨rfl, rfl⟩ := List.cons.inj hsplit
          rcases advance_cases t o revision cur with ⟨hrefused, -⟩ | ⟨-, c, hok⟩
          · exact absurd haccept hrefused
          · have hafter : acknowledged (viewStep w t (.advance o revision cur)) o = cur := by
              rw [show viewStep w t (.advance o revision cur) = (advanceReturnViewCursor o revision cur t).2 from rfl,
                (advanceBody_ok hok).2.2.2.2 o, if_pos rfl]
            omega
    · have hlate : n < acknowledged (run (viewStep w) (viewStep w t c) calls) o :=
        lt_of_lt_of_le (Nat.not_le.1 hstep) (acknowledged_run w o calls (viewStep w t c))
      refine ⟨fun _ => ?_, fun _ => hlate⟩
      cases c with
      | store c => exact absurd h hstep
      | advance id revision cur =>
        rcases advance_cases t id revision cur with ⟨-, hsame⟩ | ⟨haccept, c, hok⟩
        · have hstays : viewStep w t (.advance id revision cur) = t := hsame
          rw [hstays] at hstep
          exact absurd h hstep
        · have hafter : acknowledged (viewStep w t (.advance id revision cur)) o =
              if o = id then cur else acknowledged t o := (advanceBody_ok hok).2.2.2.2 o
          by_cases ho : o = id
          · subst ho
            rw [hafter, if_pos rfl] at hstep
            exact ⟨[], revision, cur, calls, rfl, haccept, Nat.not_le.1 hstep⟩
          · rw [hafter, if_neg ho] at hstep
            exact absurd h hstep

/-- **Snapshots and acknowledgements move forward.**  Over every history of calls, acknowledgements and the two locks of
views: a request is answered with the newest snapshot, the cursors grow with the revision, an acknowledgement is never
taken back and is within every later answer; a view is refused as overtaken exactly when, after its snapshot was
compiled and before its acknowledgement was read, its operator had one beyond the snapshot accepted. -/
theorem views_move_forward {w : CustodyWire} {e : Elsewhere} {calls : List ViewEvent}
    (h : Along (viewStep w) (Uncollided w) (newViews e) calls) :
    (∀ a ∈ (run (viewStep w) (newViews e) calls).operator.snapshots.rows,
      ∀ b ∈ (run (viewStep w) (newViews e) calls).operator.snapshots.rows, a.payload.revision ≤ b.payload.revision →
        a.payload.eventCursor ≤ b.payload.eventCursor ∧ ∀ source, a.payload.sourceCursors source ≤
          b.payload.sourceCursors source) ∧
    ∀ early call late s, calls = early ++ call :: late →
      (∀ o, acknowledged (run (viewStep w) (newViews e) early) o ≤ acknowledged (run (viewStep w) (newViews e) calls) o) ∧
      (snapshotAnswer w (run (viewStep w) (newViews e) early) call = some (.ok s) →
        (∃ r ∈ (run (viewStep w) (newViews e) (early ++ [call])).operator.snapshots.rows, r.payload = s) ∧
        (∀ r ∈ (run (viewStep w) (newViews e) (early ++ [call])).operator.snapshots.rows,
          r.payload.revision ≤ s.revision) ∧
        (∀ o, acknowledged (run (viewStep w) (newViews e) early) o ≤ s.eventCursor) ∧
        ∀ o viewId, bindView w.toWire viewId o s (run (viewStep w) (newViews e) calls).cursors
            (run (viewStep w) (newViews e) calls).operator.events = .error acknowledgementIsNewer ↔
          ∃ between revision cur rest, late = between ++ .advance o revision cur :: rest ∧
            Accepts (run (viewStep w) (newViews e) (early ++ call :: between)) o revision cur ∧ s.eventCursor < cur) := by
  have hledger := (viewLedger_new w e).run h
  refine ⟨fun a ha b hb hle => ⟨hledger.forward.event_le ha hb hle, hledger.forward.cursors_le ha hb hle⟩, ?_⟩
  rintro early call late s rfl
  have hrun : run (viewStep w) (newViews e) (early ++ call :: late) =
      run (viewStep w) (viewStep w (run (viewStep w) (newViews e) early) call) late := by
    rw [run_append, run_cons]
  obtain ⟨hearly, hcall, -⟩ := (Trace.along_append (viewStep w) (Uncollided w) (newViews e) early (call :: late)).1 h
  have hbefore := (viewLedger_new w e).run hearly
  refine ⟨fun o => ?_, fun hs => ?_⟩
  · rw [hrun]
    exact (acknowledged_step w _ call o).trans (acknowledged_run w o late _)
  · have hafter : run (viewStep w) (newViews e) (early ++ [call]) =
        viewStep w (run (viewStep w) (newViews e) early) call := by
      rw [run_append]
      rfl
    obtain ⟨r, hr, hpayload, hnewest⟩ := hbefore.forward.answer hcall hs
    have hwithin := hbefore.acknowledged_le hcall hs
    rw [hafter]
    refine ⟨⟨r, hr, hpayload⟩, hnewest, fun o => (acknowledged_step w _ call o).trans (hwithin o), fun o viewId => ?_⟩
    have hfits : fitsI64 s.eventCursor = true := hpayload ▸ (hbefore.step _ call hcall).forward.fits r hr
    rw [bindView_newer (hledger.acknowledges o).1 hfits, hrun, overtaken_iff w o s.eventCursor late (hwithin o)]
    simp only [run_append, run_cons]

/-! ## A view that is overtaken -/

/-- The digests of the cursors after one and after two events, and of the snapshots compiled then. -/
def viewWire : CustodyWire :=
  tableWire [] ["domain_events", "snapshot_id"]
    [([some (ofNat 1), none],
        ⟨"f1f438e4c62da51de91dcf1952a793668a76c3b12bcd9979f3e4519bd00e3bcd", isLowerHex_ofList (by decide)⟩),
      ([some (ofNat 2), none],
        ⟨"1664f986513c27bb2ce2895fc1a664386752fff71de95f6fb101dcf0a5d22ecf", isLowerHex_ofList (by decide)⟩),
      ([none, some (.str "x1")],
        ⟨"f17cb9290ca932b9064eaf7bd517e1510a4199c538940713d9efd407723c17a7", isLowerHex_ofList (by decide)⟩),
      ([none, some (.str "x2")],
        ⟨"9324c1d2ca82ebeafb3a928b932b8413147623778de2e2c50571ce3c4f6b7b16", isLowerHex_ofList (by decide)⟩)]

def someEvent : SourceEvent := ⟨0, some "r", "run", "r", "run.created", 0, .obj []⟩

def beforeView : List ViewEvent := [.store (.elsewhere nowhere (some someEvent))]

/-- Another event, a second request, and its acknowledgement, before the view reads what is acknowledged. -/
def duringView : List ViewEvent :=
  [.store (.elsewhere nowhere (some someEvent)), .store (.compile secondDraw), .advance "o" 2 2]

def overtakingHistory : List ViewEvent := beforeView ++ .store (.compile firstDraw) :: duringView

def refusedView (w : CustodyWire) (asked bound : ViewTables) (call : ViewEvent) (viewId operatorId : String) : Bool :=
  match snapshotAnswer w asked call with
  | some (.ok s) =>
    match bindView w.toWire viewId operatorId s bound.cursors bound.operator.events with
    | .error e => decide (e = acknowledgementIsNewer)
    | .ok _    => false
  | _ => false

theorem of_refusedView {w : CustodyWire} {asked bound : ViewTables} {call : ViewEvent} {viewId o : String}
    (h : refusedView w asked bound call viewId o = true) :
    ∃ s, snapshotAnswer w asked call = some (.ok s) ∧
      bindView w.toWire viewId o s bound.cursors bound.operator.events = .error acknowledgementIsNewer := by
  unfold refusedView at h
  split at h
  · rename_i s hs
    refine ⟨s, hs, ?_⟩
    split at h
    · rename_i e he
      rw [he, of_decide_eq_true h]
    · cases h
  · cases h

theorem overtaking_refused :
    refusedView viewWire (run (viewStep viewWire) (newViews nowhere) beforeView)
      (run (viewStep viewWire) (newViews nowhere) overtakingHistory) (.store (.compile firstDraw)) "v" "o" = true := by
  decide

def ViewTables.digestView (w : Wire) (t : ViewTables) : List String × String :=
  (t.operator.snapshots.rows.map SnapshotRow.sourceCursorsSha256, (w.digestJson (cursorsJson (cursor t.operator))).hex)

theorem overtaking_view :
    (run (viewStep viewWire) (newViews nowhere)
      (beforeView ++ [.store (.compile firstDraw), .store (.elsewhere nowhere (some someEvent))])).digestView viewWire.toWire =
    (["f1f438e4c62da51de91dcf1952a793668a76c3b12bcd9979f3e4519bd00e3bcd"],
      "1664f986513c27bb2ce2895fc1a664386752fff71de95f6fb101dcf0a5d22ecf") := by
  decide

theorem distinct_of_view {w : Wire} {t : ViewTables} {shas : List String} {sha : String}
    (h : t.digestView w = (shas, sha)) (hsha : sha ∉ shas) : Distinct w t.operator := by
  obtain ⟨hrows, hpresent⟩ := Prod.mk.inj h
  intro r hr heq
  refine absurd ?_ hsha
  rw [← hpresent, ← heq, ← hrows]
  exact List.mem_map_of_mem hr

theorem overtaking_uncollided : Along (viewStep viewWire) (Uncollided viewWire) (newViews nowhere) overtakingHistory := by
  refine ⟨trivial, ?_, trivial, distinct_of_view overtaking_view (by decide), trivial, trivial⟩
  exact fun r hr => absurd hr List.not_mem_nil

theorem overtaken_view_explained : ∃ s,
    snapshotAnswer viewWire (run (viewStep viewWire) (newViews nowhere) beforeView) (.store (.compile firstDraw)) =
      some (.ok s) ∧
    ∃ between revision cur rest, duringView = between ++ .advance "o" revision cur :: rest ∧
      Accepts (run (viewStep viewWire) (newViews nowhere) (beforeView ++ .store (.compile firstDraw) :: between)) "o"
        revision cur ∧ s.eventCursor < cur := by
  obtain ⟨s, hs, hrefused⟩ := of_refusedView overtaking_refused
  obtain ⟨-, hviews⟩ := views_move_forward overtaking_uncollided
  exact ⟨s, hs, (((hviews beforeView (.store (.compile firstDraw)) duringView s rfl).2 hs).2.2.2 "o" "v").1 hrefused⟩

theorem acknowledgement_overtakes : ∃ s,
    snapshotAnswer viewWire (run (viewStep viewWire) (newViews nowhere) beforeView) (.store (.compile firstDraw)) =
      some (.ok s) ∧
    bindView viewWire.toWire "v" "o" s (run (viewStep viewWire) (newViews nowhere) overtakingHistory).cursors
      (run (viewStep viewWire) (newViews nowhere) overtakingHistory).operator.events = .error acknowledgementIsNewer :=
  of_refusedView overtaking_refused

end Control
end Bildr
