import Bildr.AttentionAcknowledgement
import Bildr.Keyset
import Bildr.SignedWord
import Bildr.Texts
import Mathlib.Data.List.Permutation
import Mathlib.Data.Prod.Lex
/-!
# AttentionPages — attention, read page by page

A page is asked for with one row too many, and its cursor names the severity, the time and the id of its last item in a
text.  The cursor is read back as it was written, colons in the id and a time before the epoch included
(`parseCursor_formatCursor`), and its condition is the strict order of the `ORDER BY` (`precedes_iff`); so the pages
visit every item once (`pages_complete`).
-/
namespace Bildr
namespace Control

open Improvement (isSafeOperatorControlIdentifier)
open SortBy (sortBy)
open Trace (run)

/-! ## Cursors -/

structure AttentionCursor where
  severityRank : Int
  openedAtMs : Int
  attentionId : String
deriving DecidableEq, Repr

def splitn (separator : Char) : Nat → List Char → List (List Char)
  | 0, _ => []
  | 1, text => [text]
  | n + 2, text =>
    match text.dropWhile (fun c => c != separator) with
    | []        => [text]
    | _ :: rest => text.takeWhile (fun c => c != separator) :: splitn separator (n + 1) rest

/-- The digits of `str::parse`. -/
def parseDigits (digits : List Char) : Option Nat :=
  if !digits.isEmpty && digits.all Char.isDigit then some (Nat.ofDigitChars 10 digits 0) else none

/-- `str::parse::<i64>`. -/
def parseI64 (text : List Char) : Option Int :=
  let value := match text with
    | '-' :: digits => (parseDigits digits).map Int.negOfNat
    | '+' :: digits => (parseDigits digits).map Int.ofNat
    | digits        => (parseDigits digits).map Int.ofNat
  value.filter (fun n => decide (SignedWord.Fits n))

/-- `AttentionItemId::parse(..).ok()`. -/
def parseItemId (text : List Char) : Option String :=
  if isSafeOperatorControlIdentifier (String.ofList text) then some (String.ofList text) else none

def parseCursor (value : String) : Except StoreError AttentionCursor :=
  let parts := splitn ':' 3 value.toList
  let severityRank := (parts[0]?.bind parseI64).filter (fun n => decide (0 ≤ n) && decide (n ≤ 3))
  let openedAtMs := parts[1]?.bind parseI64
  let attentionId := parts[2]?.bind parseItemId
  match severityRank, openedAtMs, attentionId with
  | some severityRank, some openedAtMs, some attentionId => .ok ⟨severityRank, openedAtMs, attentionId⟩
  | _, _, _ => .error (.validation "attention cursor is malformed")

def severityRank (i : AttentionItem) : Int := i.severity.rank

def formatCursor (i : AttentionItem) : String :=
  toString (severityRank i) ++ ":" ++ toString i.openedAtMs ++ ":" ++ i.attentionId

/-! ## Pages -/

/-- The columns `severity` and `opened_at`: they are written with the payload when the item is opened and by no statement
after that, and the payload keeps both (`columns_kept`). -/
def AttentionRow.severity (r : AttentionRow) : AttentionSeverity := r.payload.severity

def AttentionRow.openedAt (r : AttentionRow) : Int := r.payload.openedAtMs

/-- The condition of a cursor: `rank > ?1 OR (rank = ?1 AND (opened_at < ?2 OR (opened_at = ?2 AND id < ?3)))`. -/
def AttentionCursor.precedes (c : AttentionCursor) (r : AttentionRow) : Bool :=
  decide (c.severityRank < r.severity.rank) || (decide ((r.severity.rank : Int) = c.severityRank) &&
    (decide (r.openedAt < c.openedAtMs) || (decide (r.openedAt = c.openedAtMs) && decide (r.id < c.attentionId))))

/-- `ORDER BY CASE severity …, opened_at DESC, id DESC`. -/
def AttentionRow.pageKey (r : AttentionRow) : Nat ×ₗ Intᵒᵈ ×ₗ Stringᵒᵈ :=
  toLex (r.severity.rank, toLex (OrderDual.toDual r.openedAt, OrderDual.toDual r.id))

structure AttentionPage where
  items : List AttentionItem
  includesTerminal : Bool
  nextCursor : Option String
deriving DecidableEq

def checkedAttentionRow (w : Wire) (r : AttentionRow) : Except StoreError AttentionItem := do
  ensure ((w.digestJson r.payload.json).hex == r.payloadSha256) (.sqlite .fromSqlConversionFailure)
  ensure r.payload.validate.isOk (.sqlite .fromSqlConversionFailure)
  return r.payload

/-- The rows of the `WHERE` without its cursor. -/
def visibleItems (s : AttentionStore) (includeTerminal : Bool) : List AttentionRow :=
  s.items.rows.filter (fun r => includeTerminal || r.state.isActive)

def listAttentionPage (w : Wire) (s : AttentionStore) (includeTerminal : Bool) (limit : Nat) (cursor : Option String) :
    Except StoreError AttentionPage := do
  ensure (!(limit == 0 || decide (200 < limit))) (.validation "attention page limit must be 1..=200")
  let cursor ← match cursor with
    | none   => pure none
    | some c => some <$> parseCursor c
  let rows := (visibleItems s includeTerminal).filter (fun r => cursor.all (fun c => c.precedes r))
  let probe := (sortBy AttentionRow.pageKey rows).take (limit + 1)
  let items ← probe.mapM (checkedAttentionRow w)
  if limit < items.length then
    return ⟨items.dropLast, includeTerminal, (items.dropLast.getLast?.map formatCursor).or (items.getLast?.map formatCursor)⟩
  else
    return ⟨items, includeTerminal, none⟩

/-- The pages one after another, and the items on them; none if there are more pages. -/
def visitPages (w : Wire) (s : AttentionStore) (includeTerminal : Bool) (limit : Nat) :
    Nat → Option String → Except StoreError (Option (List AttentionItem))
  | 0, _ => .ok none
  | n + 1, cursor => do
    let page ← listAttentionPage w s includeTerminal limit cursor
    match page.nextCursor with
    | none      => return some page.items
    | some next => do
      let rest ← visitPages w s includeTerminal limit n (some next)
      return rest.map (fun items => page.items ++ items)

/-! ## A cursor is read back -/

theorem splitn_piece {separator : Char} {n : Nat} {piece rest : List Char} (h : separator ∉ piece) :
    splitn separator (n + 2) (piece ++ separator :: rest) = piece :: splitn separator (n + 1) rest := by
  have hdrop : (piece ++ separator :: rest).dropWhile (fun c => c != separator) = separator :: rest := by
    rw [List.dropWhile_append_of_pos (fun c hc => by
      rw [bne_iff_ne]
      rintro rfl
      exact h hc),
      List.dropWhile_cons_of_neg (by simp)]
  rw [splitn, hdrop, Texts.takeWhile_separator h]

theorem parseDigits_number (n : Nat) : parseDigits (toString n).toList = some n := by
  have hdigits : (toString n).toList = Nat.toDigits 10 n := Texts.toList_toString n
  have hne : (toString n).toList.isEmpty = false := by
    rw [hdigits]
    exact List.isEmpty_eq_false_iff.2 Nat.toDigits_ne_nil
  have hall : (toString n).toList.all Char.isDigit = true := List.all_eq_true.2 fun c hc => Texts.digit_of_mem hc
  unfold parseDigits
  rw [hne, hall, hdigits, Nat.ofDigitChars_ten_toDigits]
  rfl

theorem parseI64_digits {digits : List Char} {n : Nat} (h : parseDigits digits = some n) (hfits : SignedWord.Fits (Int.ofNat n)) :
    parseI64 digits = some (Int.ofNat n) := by
  cases digits with
  | nil => cases h
  | cons c rest =>
    have hc : c.isDigit = true := by
      unfold parseDigits at h
      split at h
      · rename_i hall
        rw [Bool.and_eq_true, List.all_cons, Bool.and_eq_true] at hall
        exact hall.2.1
      · cases h
    have hminus : c ≠ '-' := fun heq => by rw [heq] at hc; exact absurd hc (by decide)
    have hplus : c ≠ '+' := fun heq => by rw [heq] at hc; exact absurd hc (by decide)
    have hvalue : parseI64 (c :: rest) = ((parseDigits (c :: rest)).map Int.ofNat).filter
        (fun n => decide (SignedWord.Fits n)) := by
      unfold parseI64
      split
      · exact absurd (List.cons.inj ‹_›).1 hminus
      · exact absurd (List.cons.inj ‹_›).1 hplus
      · rfl
    rw [hvalue, h, Option.map_some]
    exact Option.filter_some_pos (decide_eq_true hfits)

theorem parseI64_minus {digits : List Char} {n : Nat} (h : parseDigits digits = some n)
    (hfits : SignedWord.Fits (Int.negOfNat n)) : parseI64 ('-' :: digits) = some (Int.negOfNat n) := by
  have hvalue : parseI64 ('-' :: digits) = ((parseDigits digits).map Int.negOfNat).filter
      (fun n => decide (SignedWord.Fits n)) := rfl
  rw [hvalue, h, Option.map_some]
  exact Option.filter_some_pos (decide_eq_true hfits)

theorem parseI64_integer {n : Int} (h : SignedWord.Fits n) : parseI64 (toString n).toList = some n := by
  cases n with
  | ofNat n => exact parseI64_digits (parseDigits_number n) h
  | negSucc n =>
    rw [Texts.toString_negSucc, String.toList_append]
    exact parseI64_minus (parseDigits_number (n + 1)) h

theorem colon_not_mem_integer : ∀ n : Int, ':' ∉ (toString n).toList
  | .ofNat n, h => absurd (Texts.digit_of_mem h) (by decide)
  | .negSucc n, h => by
    rw [Texts.toString_negSucc, String.toList_append, List.mem_append] at h
    rcases h with h | h
    · exact absurd h (by decide)
    · exact absurd (Texts.digit_of_mem h) (by decide)

theorem parseCursor_formatCursor {i : AttentionItem} (hid : isSafeOperatorControlIdentifier i.attentionId = true)
    (htime : SignedWord.Fits i.openedAtMs) :
    parseCursor (formatCursor i) = .ok ⟨severityRank i, i.openedAtMs, i.attentionId⟩ := by
  have hrank : 0 ≤ severityRank i ∧ severityRank i ≤ 3 := by
    unfold severityRank
    cases i.severity <;> decide
  have htext : (formatCursor i).toList = (toString (severityRank i)).toList ++ ':' ::
      ((toString i.openedAtMs).toList ++ ':' :: i.attentionId.toList) := by
    unfold formatCursor
    simp only [String.toList_append, List.append_assoc]
    rfl
  have hparts : splitn ':' 3 (formatCursor i).toList =
      [(toString (severityRank i)).toList, (toString i.openedAtMs).toList, i.attentionId.toList] := by
    rw [htext, splitn_piece (colon_not_mem_integer _), splitn_piece (colon_not_mem_integer _)]
    rfl
  have hseverity : (parseI64 (toString (severityRank i)).toList).filter (fun n => decide (0 ≤ n) && decide (n ≤ 3)) =
      some (severityRank i) := by
    rw [parseI64_integer ⟨by omega, by omega⟩]
    exact Option.filter_some_pos (by rw [decide_eq_true hrank.1, decide_eq_true hrank.2]; rfl)
  have hitem : parseItemId i.attentionId.toList = some i.attentionId := by
    unfold parseItemId
    rw [String.ofList_toList, if_pos hid]
  unfold parseCursor
  rw [hparts]
  simp only [List.getElem?_cons_zero, List.getElem?_cons_succ, Option.bind_some, hseverity, parseI64_integer htime, hitem]

/-! ## What the rows keep -/

structure KeepsOpening (i j : AttentionItem) : Prop where
  id : i.attentionId = j.attentionId
  run : i.runId = j.runId
  severity : i.severity = j.severity
  opened : i.openedAtMs = j.openedAtMs

theorem KeepsOpening.refl (i : AttentionItem) : KeepsOpening i i := ⟨rfl, rfl, rfl, rfl⟩

/-- Every item carries on an item from before, or is the new one of the call. -/
def KeepsOpenings (t : AttentionTables) (c : AttentionCall) (t' : AttentionTables) : Prop :=
  ∀ j ∈ t'.items.rows, (∃ i ∈ t.items.rows, KeepsOpening i j) ∨ c = .upsert j ∧ t.items.get j.attentionId = none

theorem itemStep_keepsOpenings (w : Wire) (t : AttentionTables) (c : AttentionCall) : KeepsOpenings t c (itemStep w t c) := by
  have hsteps := itemStep_steps w t c
  generalize itemStep w t c = t' at hsteps
  cases hsteps with
  | same => exact fun j hj => Or.inl ⟨j, hj, KeepsOpening.refl j⟩
  | retried item _ h => exact fun j hj => Or.inl ⟨j, h.items ▸ hj, KeepsOpening.refl j⟩
  | opened item _ h =>
    intro j hj
    rw [h.items, List.mem_append, List.mem_singleton] at hj
    rcases hj with hj | rfl
    · exact Or.inl ⟨j, hj, KeepsOpening.refl j⟩
    · exact Or.inr ⟨rfl, h.fresh⟩
  | changed _ i next _ h =>
    intro j hj
    rcases (h.items j).1 hj with rfl | ⟨hj, -⟩
    · exact Or.inl ⟨i, Table.mem_of_get h.stored, Table.key_of_get h.stored, h.succeeds.run.symm,
        h.succeeds.severity.symm, h.succeeds.opened.symm⟩
    · exact Or.inl ⟨j, hj, KeepsOpening.refl j⟩

/-- **Every call keeps the severity, the opening time and the run in the payload**, also where it writes the payload anew. -/
theorem columns_kept (w : Wire) (calls : List SharedCall) (c : SharedCall) {r r' : AttentionRow}
    (hr : r ∈ (sharedAfter w calls).items.rows) (hr' : r' ∈ (sharedStep w (sharedAfter w calls) c).items.rows)
    (hid : r.id = r'.id) :
    r.severity = r'.severity ∧ r.openedAt = r'.openedAt ∧ r.payload.runId = r'.payload.runId := by
  rw [sharedAfter_eq] at hr hr'
  rw [sharedStep_image] at hr'
  generalize sharedItems w calls = t at hr hr'
  obtain ⟨i, hi, rfl⟩ := List.mem_map.1 hr
  obtain ⟨j, hj, rfl⟩ := List.mem_map.1 hr'
  have hkeeps : KeepsOpening i j := by
    have hsame : j ∈ t.items.rows → KeepsOpening i j := fun hj =>
      List.inj_on_of_nodup_map t.items.nodup hi hj hid ▸ KeepsOpening.refl i
    cases c with
    | attention c =>
      rcases itemStep_keepsOpenings w t c j hj with ⟨k, hk, hkj⟩ | ⟨-, hnone⟩
      · have hik : i = k := List.inj_on_of_nodup_map t.items.nodup hi hk (hid.trans hkj.id.symm)
        exact hik ▸ hkj
      · exact absurd hid (Table.get_none.1 hnone i hi)
    | links b => exact hsame hj
    | deleteRun runId => exact hsame (mem_deleteItems.1 hj).1
  exact ⟨hkeeps.severity, hkeeps.opened, hkeeps.run⟩

theorem acknowledgedPair_rows :
    (sharedAfter acknowledgedWire (openedPair ++ [.attention (.acknowledge "m" 1 12)])).items.rows =
      [rowOf acknowledgedWire (infrastructureItem "n"), rowOf acknowledgedWire (networkItem.acknowledged 12)] := by
  rw [(sharedAfter_rows _ _).1, network_acknowledged_rows]
  rfl

/-- An acknowledgement writes the payload of an item anew. -/
theorem columns_kept_acknowledged :
    rowOf acknowledgedWire networkItem ∈ (sharedAfter acknowledgedWire openedPair).items.rows ∧
    rowOf acknowledgedWire (networkItem.acknowledged 12) ∈
      (sharedStep acknowledgedWire (sharedAfter acknowledgedWire openedPair) (.attention (.acknowledge "m" 1 12))).items.rows ∧
    (rowOf acknowledgedWire networkItem).severity = (rowOf acknowledgedWire (networkItem.acknowledged 12)).severity ∧
    (rowOf acknowledgedWire networkItem).openedAt = (rowOf acknowledgedWire (networkItem.acknowledged 12)).openedAt ∧
    (rowOf acknowledgedWire networkItem).payload.runId =
      (rowOf acknowledgedWire (networkItem.acknowledged 12)).payload.runId := by
  have hr : rowOf acknowledgedWire networkItem ∈ (sharedAfter acknowledgedWire openedPair).items.rows := by
    rw [(sharedAfter_rows _ _).1, openedPair_rows.1]
    exact List.mem_cons_of_mem _ List.mem_cons_self
  have hr' : rowOf acknowledgedWire (networkItem.acknowledged 12) ∈ (sharedStep acknowledgedWire
      (sharedAfter acknowledgedWire openedPair) (.attention (.acknowledge "m" 1 12))).items.rows := by
    rw [← sharedAfter_append, acknowledgedPair_rows]
    exact List.mem_cons_of_mem _ List.mem_cons_self
  exact ⟨hr, hr', columns_kept acknowledgedWire openedPair (.attention (.acknowledge "m" 1 12)) hr hr' rfl⟩

/-- `opened_at_ms: i64`. -/
def SharedCall.Typed : SharedCall → Prop
  | .attention (.upsert item) => SignedWord.Fits item.openedAtMs
  | _ => True

theorem times_run {w : Wire} : ∀ (calls : List SharedCall) {t : AttentionTables}, (∀ c ∈ calls, c.Typed) →
    (∀ i ∈ t.items.rows, SignedWord.Fits i.openedAtMs) →
      ∀ i ∈ (run (sharedItemStep w) t calls).items.rows, SignedWord.Fits i.openedAtMs
  | [], _, _, h => h
  | c :: calls, t, htyped, h => by
    refine times_run calls (t := sharedItemStep w t c) (fun d hd => htyped d (List.mem_cons_of_mem c hd)) (fun j hj => ?_)
    cases c with
    | attention c =>
      rcases itemStep_keepsOpenings w t c j hj with ⟨i, hi, hij⟩ | ⟨rfl, -⟩
      · exact hij.opened ▸ h i hi
      · exact htyped _ List.mem_cons_self
    | links b => exact h j hj
    | deleteRun runId => exact h j (mem_deleteItems.1 hj).1

structure Readable (w : Wire) (s : AttentionStore) : Prop where
  id : ∀ r ∈ s.items.rows, r.payload.attentionId = r.id
  checked : ∀ r ∈ s.items.rows, checkedAttentionRow w r = .ok r.payload
  safe : ∀ r ∈ s.items.rows, isSafeOperatorControlIdentifier r.payload.attentionId = true
  time : ∀ r ∈ s.items.rows, SignedWord.Fits r.payload.openedAtMs

theorem readable_run {w : Wire} {calls : List SharedCall} (htyped : ∀ c ∈ calls, c.Typed) :
    Readable w (sharedAfter w calls) := by
  have hkept := sharedItems_run w calls
  have htimes : ∀ i ∈ (sharedItems w calls).items.rows, SignedWord.Fits i.openedAtMs :=
    times_run calls htyped (fun i hi => by cases hi)
  have hrow : ∀ r ∈ (sharedAfter w calls).items.rows, ∃ i ∈ (sharedItems w calls).items.rows, rowOf w i = r := by
    rw [sharedAfter_eq]
    exact fun r hr => List.mem_map.1 hr
  refine ⟨fun r hr => ?_, fun r hr => ?_, fun r hr => ?_, fun r hr => ?_⟩
  · obtain ⟨i, -, rfl⟩ := hrow r hr
    rfl
  · obtain ⟨i, hi, rfl⟩ := hrow r hr
    have hvalid : (rowOf w i).payload.validate = .ok () := hkept.items.valid i hi
    have hdigest : ((w.digestJson (rowOf w i).payload.json).hex == (rowOf w i).payloadSha256) = true := beq_self_eq_true _
    unfold checkedAttentionRow
    rw [hvalid, hdigest]
    rfl
  · obtain ⟨i, hi, rfl⟩ := hrow r hr
    exact hkept.safe i hi
  · obtain ⟨i, hi, rfl⟩ := hrow r hr
    exact htimes i hi

/-! ## The pages -/

/-- What comes before in the `ORDER BY`. -/
def PageBefore (r r' : AttentionRow) : Prop :=
  r.severity.rank < r'.severity.rank ∨ r.severity.rank = r'.severity.rank ∧
    (r'.openedAt < r.openedAt ∨ r'.openedAt = r.openedAt ∧ r'.id < r.id)

theorem pageKey_lt {r r' : AttentionRow} : r.pageKey < r'.pageKey ↔ PageBefore r r' := by
  unfold AttentionRow.pageKey PageBefore
  rw [Prod.Lex.toLex_lt_toLex, Prod.Lex.toLex_lt_toLex]
  simp only [OrderDual.toDual_lt_toDual, EmbeddingLike.apply_eq_iff_eq]
  tauto

theorem pageKey_id {r r' : AttentionRow} (h : r.pageKey = r'.pageKey) : r.id = r'.id := by
  have hparts := congrArg (fun k => (ofLex (ofLex k).2).2) h
  exact OrderDual.toDual.injective hparts

def AttentionRow.cursor (r : AttentionRow) : AttentionCursor :=
  ⟨severityRank r.payload, r.payload.openedAtMs, r.payload.attentionId⟩

theorem precedes_iff {r r' : AttentionRow} (hid : r.payload.attentionId = r.id) :
    r.cursor.precedes r' = decide (r.pageKey < r'.pageKey) := by
  rw [Bool.eq_iff_iff, decide_eq_true_eq, pageKey_lt]
  unfold AttentionCursor.precedes AttentionRow.cursor PageBefore severityRank
  simp only [hid, Bool.or_eq_true, Bool.and_eq_true, decide_eq_true_eq, Int.ofNat_lt, Int.ofNat_inj]
  unfold AttentionRow.severity AttentionRow.openedAt
  rw [eq_comm (a := r'.payload.severity.rank)]

section Visit
variable {w : Wire} {s : AttentionStore} {includeTerminal : Bool} {limit : Nat}

theorem mem_visibleItems {r : AttentionRow} (h : r ∈ visibleItems s includeTerminal) : r ∈ s.items.rows := (List.mem_filter.1 h).1

theorem mapM_checked (h : Readable w s) : ∀ {rows : List AttentionRow}, (∀ r ∈ rows, r ∈ s.items.rows) →
    rows.mapM (checkedAttentionRow w) = .ok (rows.map AttentionRow.payload)
  | [], _ => rfl
  | r :: rows, hrows => by
    rw [List.mapM_cons, h.checked r (hrows r List.mem_cons_self), ok_bind,
      mapM_checked h (fun q hq => hrows q (List.mem_cons_of_mem r hq)), ok_bind]
    rfl

inductive StandsFor (s : AttentionStore) : Option String → Option (Nat ×ₗ Intᵒᵈ ×ₗ Stringᵒᵈ) → Prop
  | start : StandsFor s none none
  | row (r : AttentionRow) (stored : r ∈ s.items.rows) : StandsFor s (some (formatCursor r.payload)) (some r.pageKey)

theorem list_page (h : Readable w s) (hlimit : 1 ≤ limit ∧ limit ≤ 200) {cursor : Option String}
    {start : Option (Nat ×ₗ Intᵒᵈ ×ₗ Stringᵒᵈ)} (hcursor : StandsFor s cursor start) :
    ∃ next, listAttentionPage w s includeTerminal limit cursor =
      .ok ⟨(Keyset.page AttentionRow.pageKey (visibleItems s includeTerminal) limit start).1.map AttentionRow.payload,
        includeTerminal, next⟩ ∧
      StandsFor s next (Keyset.page AttentionRow.pageKey (visibleItems s includeTerminal) limit start).2 := by
  have hbound : (!(limit == 0 || decide (200 < limit))) = true := by
    rw [beq_false_of_ne (by omega), decide_eq_false (by omega)]
    rfl
  have hmem : ∀ r ∈ Keyset.after AttentionRow.pageKey (visibleItems s includeTerminal) start, r ∈ s.items.rows := by
    intro r hr
    cases start with
    | none => exact mem_visibleItems (SortBy.mem_sortBy.1 hr)
    | some k => exact mem_visibleItems (List.mem_filter.1 (SortBy.mem_sortBy.1 hr)).1
  -- the rows that the page is cut from are those after the key
  have hpage : listAttentionPage w s includeTerminal limit cursor =
      ((Keyset.after AttentionRow.pageKey (visibleItems s includeTerminal) start).take (limit + 1)).mapM
        (checkedAttentionRow w) >>= fun items =>
          if limit < items.length then
            .ok ⟨items.dropLast, includeTerminal,
              (items.dropLast.getLast?.map formatCursor).or (items.getLast?.map formatCursor)⟩
          else .ok ⟨items, includeTerminal, none⟩ := by
    unfold listAttentionPage
    rw [hbound, ensure_true, ok_bind]
    cases hcursor with
    | start =>
      have hall : (visibleItems s includeTerminal).filter (fun r => (none : Option AttentionCursor).all (fun c => c.precedes r)) =
          visibleItems s includeTerminal := List.filter_eq_self.2 fun r _ => rfl
      show (((sortBy AttentionRow.pageKey _).take (limit + 1)).mapM (checkedAttentionRow w) >>= _) = _
      rw [hall]
      rfl
    | row r hr =>
      have hafter : (visibleItems s includeTerminal).filter (fun q => (some r.cursor).all (fun c => c.precedes q)) =
          (visibleItems s includeTerminal).filter (fun q => decide (r.pageKey < q.pageKey)) :=
        List.filter_congr fun q _ => precedes_iff (h.id r hr)
      dsimp only
      rw [parseCursor_formatCursor (h.safe r hr) (h.time r hr)]
      show (((sortBy AttentionRow.pageKey ((visibleItems s includeTerminal).filter (fun q =>
        (some r.cursor).all (fun c => c.precedes q)))).take (limit + 1)).mapM (checkedAttentionRow w) >>= _) = _
      rw [hafter]
      rfl
  rw [hpage, mapM_checked h (fun r hr => hmem r (List.mem_of_mem_take hr)), ok_bind]
  rcases @Keyset.page_cases _ _ _ AttentionRow.pageKey (visibleItems s includeTerminal) limit start hlimit.1 with
    ⟨hshort, hkeyset⟩ | ⟨front, last, extra, rest, hafter, hlength, hkeyset⟩
  · rw [hkeyset, List.take_of_length_le (by omega), if_neg (by rw [List.length_map]; omega)]
    exact ⟨none, rfl, .start⟩
  · have hprobe : (Keyset.after AttentionRow.pageKey (visibleItems s includeTerminal) start).take (limit + 1) =
        (front ++ [last]) ++ [extra] := by
      rw [hafter, ← hlength, List.take_length_add_append]
      rfl
    have hlast : last ∈ s.items.rows := hmem last (by rw [hafter]; simp)
    have hitems : ((front ++ [last]) ++ [extra]).map AttentionRow.payload =
        (front ++ [last]).map AttentionRow.payload ++ [extra.payload] := List.map_append
    have hnext : ((front ++ [last]).map AttentionRow.payload).getLast? = some last.payload := by
      rw [List.map_append, List.map_singleton, List.getLast?_concat]
    rw [hkeyset, hprobe, hitems, if_pos (by rw [List.length_append, List.length_map, hlength]; exact Nat.lt_succ_self limit),
      List.dropLast_concat, hnext]
    exact ⟨some (formatCursor last.payload), rfl, .row last hlast⟩

theorem visitPages_eq (h : Readable w s) (hlimit : 1 ≤ limit ∧ limit ≤ 200) : ∀ (n : Nat) {cursor : Option String}
    {start : Option (Nat ×ₗ Intᵒᵈ ×ₗ Stringᵒᵈ)}, StandsFor s cursor start →
      visitPages w s includeTerminal limit n cursor =
        .ok ((Keyset.walk AttentionRow.pageKey (visibleItems s includeTerminal) limit n start).map
          (List.map AttentionRow.payload))
  | 0, _, _, _ => rfl
  | n + 1, cursor, start, hcursor => by
    obtain ⟨next, hpage, hnext⟩ := @list_page w s includeTerminal limit h hlimit cursor start hcursor
    unfold visitPages Keyset.walk
    rw [hpage, ok_bind]
    generalize Keyset.page AttentionRow.pageKey (visibleItems s includeTerminal) limit start = page at hnext ⊢
    obtain ⟨rows, key⟩ := page
    cases hnext with
    | start => rfl
    | row r hr =>
      dsimp only
      rw [visitPages_eq h hlimit n (.row r hr), ok_bind]
      cases Keyset.walk AttentionRow.pageKey (visibleItems s includeTerminal) limit n (some r.pageKey) with
      | none => rfl
      | some rest => exact congrArg (fun items => Except.ok (some items)) List.map_append.symm

/-- **The pages visit every item once, in order, and end.** -/
theorem pages_complete {calls : List SharedCall} (htyped : ∀ c ∈ calls, c.Typed) (hlimit : 1 ≤ limit ∧ limit ≤ 200) :
    (∃ rows : List AttentionRow, rows.Perm (visibleItems (sharedAfter w calls) includeTerminal) ∧ rows.Pairwise PageBefore ∧
      ∀ n, (visibleItems (sharedAfter w calls) includeTerminal).length < n →
        visitPages w (sharedAfter w calls) includeTerminal limit n none = .ok (some (rows.map AttentionRow.payload))) ∧
    ∀ r ∈ (sharedAfter w calls).items.rows, parseCursor (formatCursor r.payload) = .ok r.cursor := by
  have h := readable_run (w := w) htyped
  generalize sharedAfter w calls = s at h ⊢
  have hkeys : ((visibleItems s includeTerminal).map AttentionRow.pageKey).Nodup := by
    have hids : (visibleItems s includeTerminal).Pairwise (fun a b => a.id ≠ b.id) :=
      List.pairwise_map.1 (s.items.nodup.sublist (List.filter_sublist.map AttentionRow.id))
    exact List.pairwise_map.2 (hids.imp fun hne heq => hne (pageKey_id heq))
  refine ⟨⟨sortBy AttentionRow.pageKey (visibleItems s includeTerminal), SortBy.perm_sortBy _ _,
    (Keyset.strict_sortBy hkeys).imp fun hlt => pageKey_lt.1 hlt, fun n hn => ?_⟩, fun r hr => ?_⟩
  · rw [visitPages_eq h hlimit n .start, Keyset.walk_eq hkeys hlimit.1 hn]
    rfl
  · exact parseCursor_formatCursor (h.safe r hr) (h.time r hr)

end Visit

/-- Two items, one to a page: the later one comes first. -/
theorem pages_followed : visitPages acknowledgedWire
    (sharedAfter acknowledgedWire (openedPair ++ [.attention (.acknowledge "m" 1 12)])) false 1 3 none =
      .ok (some [networkItem.acknowledged 12, infrastructureItem "n"]) := by
  have hvisible : visibleItems (sharedAfter acknowledgedWire (openedPair ++ [.attention (.acknowledge "m" 1 12)])) false =
      [rowOf acknowledgedWire (infrastructureItem "n"), rowOf acknowledgedWire (networkItem.acknowledged 12)] := by
    unfold visibleItems
    rw [acknowledgedPair_rows]
    rfl
  have htyped : ∀ c ∈ openedPair ++ [.attention (.acknowledge "m" 1 12)], c.Typed := by
    intro c hc
    simp only [openedPair, List.cons_append, List.nil_append, List.mem_cons, List.not_mem_nil, or_false] at hc
    rcases hc with rfl | rfl | rfl
    · exact show SignedWord.Fits 5 by decide
    · exact show SignedWord.Fits 9 by decide
    · trivial
  obtain ⟨⟨rows, hperm, hsorted, hvisit⟩, -⟩ := @pages_complete acknowledgedWire false 1 _ htyped (by decide)
  rw [hvisible] at hperm hvisit
  rcases List.perm_pair.1 hperm with rfl | rfl
  · have hbefore := (List.pairwise_cons.1 hsorted).1 _ List.mem_cons_self
    exact absurd hbefore (by unfold PageBefore; decide)
  · exact hvisit 3 (by decide)

end Control
end Bildr
