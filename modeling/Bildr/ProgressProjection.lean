import Bildr.Progress
import Bildr.Texts
import Bildr.LinkLedger
import Bildr.PlanCustody
import Bildr.EpisodeLedger
import Bildr.GovernorLedger
/-!
# ProgressProjection — what passes of the classifier leave

A record passes its checks exactly if the event's run and task ids are identifiers, its milestone is not too long and its
time is not negative (`validate_record_iff`).  As long as every recognized event of the ledger is such an event, and its
link clashes with no other, every pass succeeds, and the records are those of the recognized events up to the cursor.
-/
namespace Bildr
namespace Control

open Improvement (isSafeOperatorControlIdentifier)
open Json (Value)
open Texts (toList_toString toString_number_inj)
open Trace (run Along)

/-! ## Ids with numbers -/

/-- **A number after a dash is read back**: it is what stands after the last dash. -/
theorem dash_number_inj {a b : String} {m n : Nat} (h : a ++ "-" ++ toString m = b ++ "-" ++ toString n) :
    a = b ∧ m = n := by
  have htext : ∀ (a : String) (n : Nat),
      (a ++ "-" ++ toString n).toList.reverse = (Nat.toDigits 10 n).reverse ++ '-' :: a.toList.reverse := by
    intro a n
    rw [String.toList_append, String.toList_append, List.reverse_append, List.reverse_append, toList_toString]
    rfl
  have hlast : ∀ (a : String) (n : Nat),
      (a ++ "-" ++ toString n).toList.reverse.takeWhile (fun c => c != '-') = (Nat.toDigits 10 n).reverse := by
    intro a n
    rw [htext, Texts.takeWhile_separator]
    intro hdash
    exact absurd (Nat.isDigit_of_mem_toDigits (by omega) (by omega) (List.mem_reverse.1 hdash)) (by decide)
  have hdigits : (Nat.toDigits 10 m).reverse = (Nat.toDigits 10 n).reverse := by rw [← hlast a m, h, hlast b n]
  have hhead : a.toList.reverse = b.toList.reverse := by
    have h' := congrArg (fun s : String => s.toList.reverse) h
    simp only [htext, hdigits] at h'
    exact (List.cons.inj (List.append_cancel_left h')).2
  refine ⟨String.toList_inj.1 (List.reverse_inj.1 hhead), ?_⟩
  rw [← Nat.ofDigitChars_ten_toDigits (n := m), List.reverse_inj.1 hdigits, Nat.ofDigitChars_ten_toDigits]

theorem safe_digit {n : Nat} {c : Char} (hc : c ∈ (toString n).toList) :
    (c.isAlphanum || ['_', '-', '.', ':'].contains c) = true := by
  rw [toList_toString] at hc
  have := Nat.isDigit_of_mem_toDigits (by omega) (by omega) hc
  simp [Char.isAlphanum, this]

theorem safe_append_number {head : String} {n : Nat} (hhead : isSafeOperatorControlIdentifier head = true)
    (hlen : head.toList.length + 19 ≤ 160) (hn : fitsI64 n = true) :
    isSafeOperatorControlIdentifier (head ++ toString n) = true := by
  have hdigits : (toString n).toList.length ≤ 19 := by
    rw [toList_toString, Nat.length_toDigits_le_iff (by omega) (by omega)]
    have hle : (n : Int) ≤ i64Max := of_decide_eq_true hn
    unfold i64Max at hle
    omega
  exact (safe_append_iff hhead (fun _ => safe_digit)).2 (by omega)

theorem safe_domainEventId {e : SourceEvent} (h : fitsI64 e.id = true) :
    isSafeOperatorControlIdentifier (domainEventId e) = true :=
  safe_append_number (by decide) (by decide) h

theorem safe_progressId {e : SourceEvent} (kind : MaterialProgressKind) (h : fitsI64 e.id = true) :
    isSafeOperatorControlIdentifier (progressId kind e) = true := by
  refine safe_append_number ?_ ?_ h
  · cases kind <;> decide
  · cases kind <;> decide

theorem domainEventId_inj {d e : SourceEvent} (h : domainEventId d = domainEventId e) : d.id = e.id := by
  refine toString_number_inj (String.toList_inj.1 ?_)
  have h' := congrArg String.toList h
  unfold domainEventId at h'
  rw [String.toList_append, String.toList_append] at h'
  exact List.append_cancel_left h'

/-! ## Records that pass their checks -/

theorem validateOptional_ok {value : Option String} {field : String} :
    validateOptional value field = .ok () ↔ ∀ v ∈ value, isSafeOperatorControlIdentifier v = true := by
  cases value with
  | none => simp [validateOptional]
  | some v => simp [validateOptional]

theorem validateText_ok {value field : String} {maximum : Nat} :
    validateText value field maximum = .ok () ↔ Session.trim value ≠ "" ∧ value.toList.length ≤ maximum := by
  unfold validateText
  rw [ensure_ok_iff]
  simp

theorem validateText_iff {value field : String} {maximum : Nat} {c : Char} (hc : c ∈ value.toList)
    (hw : Session.isWhitespace c = false) :
    validateText value field maximum = .ok () ↔ value.toList.length ≤ maximum := by
  have hne := Plan.trim_isEmpty_false hc hw
  rw [validateText_ok]
  constructor
  · exact fun h => h.2
  · refine fun h => ⟨fun he => ?_, h⟩
    rw [he] at hne
    cases hne

theorem validateBoundedTexts_nil (field : String) (items length : Nat) : validateBoundedTexts [] field items length = .ok () := by
  simp [validateBoundedTexts, ensure]

theorem validateBoundedTexts_one {value field : String} {items length : Nat} (hi : 1 ≤ items) :
    validateBoundedTexts [value] field items length = .ok () ↔ validateText value field length = .ok () := by
  unfold validateBoundedTexts
  rw [ensure_bind_ok]
  simp only [List.length_singleton, hi, decide_true, true_and, List.forM_eq_forM, List.forM_cons, List.forM_nil]
  rw [bind_unit_ok]
  simp

theorem isIdentifier_eq (v : String) : isIdentifier v = isSafeOperatorControlIdentifier v := by
  unfold isIdentifier isSafeOperatorControlIdentifier Improvement.token
  have hchars : ∀ c : Char, ['.', '_', ':', '-'].contains c = ['_', '-', '.', ':'].contains c := by
    intro c
    simp only [List.contains_cons, List.contains_nil, Bool.or_false]
    ac_rfl
  simp only [hchars]

structure Projectable (e : SourceEvent) : Prop where
  run : ∀ r ∈ e.runId, isSafeOperatorControlIdentifier r = true
  task : e.aggregateType = "task" → isSafeOperatorControlIdentifier e.aggregateId = true
  milestone : ∀ v, (e.payload.get "current_milestone_id").bind Value.asStr = some v → v.toList.length ≤ 3990
  time : 0 ≤ e.occurredAtMs

theorem summary_ok {e : SourceEvent} {kind : MaterialProgressKind} {summary : String}
    (h : classifySourceEvent e = some (kind, summary)) :
    validateText summary "material progress summary" 4000 = .ok () := by
  unfold classifySourceEvent at h
  split at h
  · cases h
    decide
  · split at h
    · cases h
      decide
    · split at h
      · cases h
        decide
      · split at h
        · cases h
          decide +kernel
        · split at h
          · cases h
            decide
          · cases h

theorem evidence_ok {e : SourceEvent} (h : fitsI64 e.id = true) :
    validateBoundedTexts [domainEventId e] "material progress evidence refs" 1000 4000 = .ok () := by
  have hsafe := safe_domainEventId h
  simp only [isSafeOperatorControlIdentifier, Improvement.token, Bool.and_eq_true, decide_eq_true_eq] at hsafe
  rw [validateBoundedTexts_one (by omega), validateText_iff (c := 'd') (by simp [domainEventId, String.toList_append])
    (by decide)]
  omega

theorem milestones_iff {payload : Value} :
    validateBoundedTexts (milestoneRefsOf payload) "material progress milestone refs" 100 4000 = .ok () ↔
      ∀ v, (payload.get "current_milestone_id").bind Value.asStr = some v → v.toList.length ≤ 3990 := by
  unfold milestoneRefsOf
  cases hv : (payload.get "current_milestone_id").bind Value.asStr with
  | none =>
    simp only [Option.filter_none, Option.map_none, Option.getD_none, validateBoundedTexts_nil, reduceCtorEq,
      false_implies, implies_true]
  | some v =>
    by_cases he : v = ""
    · subst he
      rw [Option.filter_some, if_neg (by simp), Option.map_none, Option.getD_none]
      simp [validateBoundedTexts_nil]
    · have htext : ("milestone:" ++ v).toList.length = 10 + v.toList.length := by
        rw [String.toList_append, List.length_append]
        rfl
      rw [Option.filter_some, if_pos (by simpa using he), Option.map_some, Option.getD_some,
        validateBoundedTexts_one (by omega), validateText_iff (c := 'm') (by simp [String.toList_append]) (by decide), htext]
      simp only [Option.some.injEq, forall_eq']
      omega

theorem candidate_ok (value : Option String) :
    validateOptionalHex (value.filter isSha) "material progress candidate sha" 40 = .ok () := by
  cases value with
  | none => rfl
  | some v =>
    rw [Option.filter_some]
    split
    · rename_i h
      exact ensure_ok_iff.2 h
    · rfl

theorem validate_progress_iff {w : Wire} {p : MaterialProgressEvent} :
    p.validate w = .ok () ↔
      p.schema = "harness.material-progress.v1" ∧ validateIdentifier p.eventId "material progress id" = .ok () ∧
      validateOptional p.runId "material progress run id" = .ok () ∧
      validateOptional p.taskId "material progress task id" = .ok () ∧
      validateOptional p.attemptId "material progress attempt id" = .ok () ∧
      validateIdentifier p.sourceEventId "material progress source event id" = .ok () ∧
      validateIdentifier p.classifierVersion "material progress classifier version" = .ok () ∧
      validateText p.summary "material progress summary" 4000 = .ok () ∧
      validateBoundedTexts p.evidenceRefs "material progress evidence refs" 1000 4000 = .ok () ∧
      validateBoundedTexts p.milestoneRefs "material progress milestone refs" 100 4000 = .ok () ∧
      validateOptionalHex p.candidateSha "material progress candidate sha" 40 = .ok () ∧ 0 ≤ p.occurredAtMs ∧
      (w.digestJson p.unsigned).hex = p.sha256 := by
  unfold MaterialProgressEvent.validate
  rw [ensure_bind_ok, bind_unit_ok, bind_unit_ok, bind_unit_ok, bind_unit_ok, bind_unit_ok, bind_unit_ok, bind_unit_ok,
    bind_unit_ok, bind_unit_ok, bind_unit_ok, ensure_bind_ok, validateDigest_ok]
  simp only [beq_iff_eq, decide_eq_true_eq]

theorem safe_version : isSafeOperatorControlIdentifier "material-progress-v1" = true := by decide

/-- **A record passes its checks** exactly if its event is projectable. -/
theorem validate_record_iff {w : Wire} {e : SourceEvent} {kind : MaterialProgressKind} {summary : String}
    (hid : fitsI64 e.id = true) (h : classifySourceEvent e = some (kind, summary)) :
    (progressRecord w e kind summary).validate w = .ok () ↔ Projectable e := by
  have hattempt : validateOptional ((((e.payload.get "attempt_id").bind Value.asStr).filter isIdentifier))
      "material progress attempt id" = .ok () := by
    rw [validateOptional_ok]
    intro v hv
    rw [← isIdentifier_eq]
    exact (Option.filter_eq_some_iff.1 hv).2
  have htask : validateOptional (if e.aggregateType = "task" then some e.aggregateId else none)
      "material progress task id" = .ok () ↔
      (e.aggregateType = "task" → isSafeOperatorControlIdentifier e.aggregateId = true) := by
    rw [validateOptional_ok]
    split
    · rename_i ht
      simp [ht]
    · rename_i ht
      simp [ht]
  rw [validate_progress_iff]
  constructor
  · rintro ⟨-, -, hrun, ht, -, -, -, -, -, hmilestone, -, htime, -⟩
    exact ⟨validateOptional_ok.1 hrun, htask.1 ht, milestones_iff.1 hmilestone, htime⟩
  · intro hp
    exact ⟨rfl, validateIdentifier_ok.2 (safe_progressId kind hid), validateOptional_ok.2 hp.run, htask.2 hp.task, hattempt,
      validateIdentifier_ok.2 (safe_domainEventId hid), validateIdentifier_ok.2 safe_version, summary_ok h,
      evidence_ok hid, milestones_iff.2 hp.milestone, candidate_ok _, hp.time, rfl⟩

/-! ## Links that clash with no other -/

def progressOf (w : Wire) (e : SourceEvent) : Option MaterialProgressEvent :=
  (classifySourceEvent e).map (fun found => progressRecord w e found.1 found.2)

def progressLink (w : Wire) (p : MaterialProgressEvent) : CorrelationLink :=
  ⟨"harness.correlation-link.v1",
    "correlation-" ++ (w.sha256 ("harness.material-progress.link.v1:" ++ p.sourceEventId ++ ":" ++ p.eventId)).take 48,
    ⟨(w.sha256 ("harness.material-progress.trace.v1:" ++ p.sourceEventId)).take 32,
      (w.sha256 ("harness.material-progress.span.v1:" ++ p.eventId)).take 16, none⟩,
    "domain_event", p.sourceEventId, "material_progress", p.eventId, "derives_progress", p.occurredAtMs⟩

theorem progressLink_eq (w : Wire) (p : MaterialProgressEvent) :
    materialProgressCorrelationLink w p = .ok (progressLink w p) := derivedLink_eq w _ _ _ _ _ _ _ _ _

/-- The link of a record has a trace and an id of its own, and no digest of it is zero. -/
structure Clear (w : Wire) (links : List CorrelationLink) (p : MaterialProgressEvent) : Prop where
  trace : allZero (progressLink w p).trace.traceId = false
  span : allZero (progressLink w p).trace.spanId = false
  alone : ∀ l ∈ links, l.trace.traceId ≠ (progressLink w p).trace.traceId ∧ l.linkId ≠ (progressLink w p).linkId

theorem record_clear {w : Wire} {t : Links} {p : MaterialProgressEvent} (hs : Sound t) (h : Clear w t.rows p)
    (hids : isSafeOperatorControlIdentifier p.sourceEventId = true ∧ isSafeOperatorControlIdentifier p.eventId = true) :
    ∃ t', recordCorrelationLinkInTransaction t (progressLink w p) = .ok t' ∧ t'.rows = t.rows ++ [progressLink w p] ∧
      Sound t' := by
  have hvalid : (progressLink w p).validate = .ok () :=
    (validate_derived (progressLink_eq w p) (by decide) hids).2 ⟨h.trace, h.span⟩
  have hkinds : ':' ∉ "domain_event".toList ∧ ':' ∉ "material_progress".toList ∧ "domain_event" ≠ "material_progress" := by
    decide
  exact record_alone hs hvalid hkinds h.alone

/-! ## One pass -/

theorem progressId_inj {k k' : MaterialProgressKind} {d e : SourceEvent} (h : progressId k d = progressId k' e) :
    d.id = e.id := (dash_number_inj h).2

theorem progressOf_some {w : Wire} {e : SourceEvent} {p : MaterialProgressEvent} (h : progressOf w e = some p) :
    ∃ kind summary, classifySourceEvent e = some (kind, summary) ∧ p = progressRecord w e kind summary := by
  obtain ⟨⟨kind, summary⟩, hc, rfl⟩ := Option.map_eq_some_iff.1 h
  exact ⟨kind, summary, hc, rfl⟩

/-- The tables hold the records and links of these events, besides the links there were. -/
structure Holds (w : Wire) (before : List CorrelationLink) (done : List SourceEvent) (t : ProgressTables) : Prop where
  rows : t.progress.rows = done.filterMap (progressOf w)
  links : t.links.rows = before ++ (done.filterMap (progressOf w)).map (progressLink w)
  sound : Sound t.links

structure Ready (w : Wire) (before : List CorrelationLink) (done : List SourceEvent) (e : SourceEvent) : Prop where
  fits : fitsI64 e.id = true
  later : ∀ d ∈ done, d.id < e.id
  projectable : (classifySourceEvent e).isSome = true → Projectable e
  clear : ∀ p, progressOf w e = some p → Clear w (before ++ (done.filterMap (progressOf w)).map (progressLink w)) p

section Pass
variable {w : Wire} {before : List CorrelationLink} {done : List SourceEvent} {t : ProgressTables}

/-- **One event of a pass** adds its record and its link, if it is recognized. -/
theorem project_ready {e : SourceEvent} (h : Holds w before done t) (hr : Ready w before done e)
    (classified : List MaterialProgressEvent) :
    ∃ t', projectEvent w e classified t = .ok (classified ++ (progressOf w e).toList, t') ∧
      Holds w before (done ++ [e]) t' ∧ t'.events = t.events ∧ t'.cursor = t.cursor := by
  cases hc : classifySourceEvent e with
  | none =>
    have hnone : progressOf w e = none := by
      unfold progressOf
      rw [hc]
      rfl
    refine ⟨t, ?_, ?_, rfl, rfl⟩
    · unfold projectEvent
      rw [hc, hnone, Option.toList_none, List.append_nil]
    · have hsame : (done ++ [e]).filterMap (progressOf w) = done.filterMap (progressOf w) := by
        rw [List.filterMap_append, List.filterMap_cons_none hnone, List.filterMap_nil, List.append_nil]
      exact ⟨by rw [hsame]; exact h.rows, by rw [hsame]; exact h.links, h.sound⟩
  | some found =>
    obtain ⟨kind, summary⟩ := found
    have hsome : progressOf w e = some (progressRecord w e kind summary) := by
      unfold progressOf
      rw [hc]
      rfl
    have hgrow : (done ++ [e]).filterMap (progressOf w) =
        done.filterMap (progressOf w) ++ [progressRecord w e kind summary] := by
      rw [List.filterMap_append, List.filterMap_cons_some hsome, List.filterMap_nil]
    have hvalid : (progressRecord w e kind summary).validate w = .ok () :=
      (validate_record_iff hr.fits hc).2 (hr.projectable (by rw [hc]; rfl))
    -- the records there are come from earlier events
    have hearlier : ∀ q ∈ t.progress.rows, q.sourceEventId ≠ domainEventId e ∧ q.eventId ≠ progressId kind e := by
      intro q hq
      rw [h.rows] at hq
      obtain ⟨d, hd, hp⟩ := List.mem_filterMap.1 hq
      obtain ⟨k, s, -, rfl⟩ := progressOf_some hp
      have hlt := hr.later d hd
      exact ⟨fun he => by have := domainEventId_inj he; omega, fun he => by have := progressId_inj he; omega⟩
    have hunseen : findProgress t (progressRecord w e kind summary) = none := by
      refine List.find?_eq_none.2 (fun q hq => ?_)
      have := (hearlier q hq).1
      simp only [Bool.and_eq_true, beq_iff_eq, not_and]
      exact fun _ => this
    obtain ⟨progress, hinsert⟩ := insertRow_isOk (t := t.progress) (r := progressRecord w e kind summary) (by
      rw [List.mem_map]
      rintro ⟨q, hq, he⟩
      exact (hearlier q hq).2 he)
    have hclear : Clear w t.links.rows (progressRecord w e kind summary) := by
      rw [h.links]
      exact hr.clear _ hsome
    obtain ⟨links, hlink, hrows, hsound⟩ := record_clear h.sound hclear
      ⟨safe_domainEventId hr.fits, safe_progressId kind hr.fits⟩
    refine ⟨{ t with
      progress := progress
      links := links }, ?_, ⟨?_, ?_, hsound⟩, rfl, rfl⟩
    · unfold projectEvent materialProgressFromSource
      simp only [hc, validateIdentifier_ok.2 (safe_progressId kind hr.fits), ok_bind, hvalid, pure_ok, progressLink_eq,
        hunseen, hinsert, hlink, hsome, Option.toList_some]
    · rw [hgrow]
      exact (insertRow_ok_iff.1 hinsert).2.trans (by rw [h.rows])
    · rw [hgrow, List.map_append]
      show links.rows = _
      rw [hrows, h.links, List.append_assoc]
      rfl

theorem project_window : ∀ (win : List SourceEvent) {done : List SourceEvent} {t : ProgressTables}
    (classified : List MaterialProgressEvent), Holds w before done t →
    (∀ early e late, win = early ++ e :: late → Ready w before (done ++ early) e) →
    ∃ t', projectEvents w win classified t = .ok (classified ++ win.filterMap (progressOf w), t') ∧
      Holds w before (done ++ win) t' ∧ t'.events = t.events ∧ t'.cursor = t.cursor
  | [], done, t, classified, h, _ => ⟨t, by simp [projectEvents], by simpa using h, rfl, rfl⟩
  | e :: win, done, t, classified, h, hready => by
    have hfirst : Ready w before done e := by
      have := hready [] e win rfl
      rwa [List.append_nil] at this
    obtain ⟨t₁, hone, hholds, hevents, hcursor⟩ := project_ready h hfirst classified
    obtain ⟨t₂, hrest, hholds', hevents', hcursor'⟩ := project_window win (classified ++ (progressOf w e).toList) hholds
      (fun early d late hsplit => by
        rw [List.append_assoc]
        exact hready (e :: early) d late (by rw [hsplit]; rfl))
    refine ⟨t₂, ?_, by rwa [List.append_assoc] at hholds', hevents'.trans hevents, hcursor'.trans hcursor⟩
    unfold projectEvents
    simp only [hone, ok_bind, hrest, List.append_assoc]
    cases hp : progressOf w e with
    | none => rw [List.filterMap_cons_none hp, Option.toList_none, List.nil_append]
    | some p => rw [List.filterMap_cons_some hp, Option.toList_some, List.singleton_append]

end Pass

/-! ## The ledger and its passes -/

def lastId (t : ProgressTables) : Nat := (t.events.getLast?.map SourceEvent.id).getD 0

def SourceEvent.after (e : SourceEvent) (t : ProgressTables) (gap : Nat) : SourceEvent := { e with id := lastId t + 1 + gap }

inductive ProgressStep
  | append (gap : Nat) (e : SourceEvent)
  | pass

def progressStep (w : Wire) (t : ProgressTables) : ProgressStep → ProgressTables
  | .append gap e => if fitsI64 (e.after t gap).id then { t with events := t.events ++ [e.after t gap] } else t
  | .pass         => (classifyMaterialProgress w t).2

def emptyLedger (links : Links) : ProgressTables := ⟨[], 0, ∅, links⟩

def linksOfEvents (w : Wire) (events : List SourceEvent) : List CorrelationLink :=
  (events.filterMap (progressOf w)).map (progressLink w)

/-- An event that is recognized is projectable, and its link will clash with no other. -/
def Admissible (w : Wire) (t : ProgressTables) : ProgressStep → Prop
  | .append gap e => ((classifySourceEvent e).isSome = true → Projectable e) ∧
      ∀ p, progressOf w (e.after t gap) = some p → Clear w (t.links.rows ++ linksOfEvents w t.events) p
  | .pass         => True

def seen (t : ProgressTables) : List SourceEvent := t.events.filter (fun e => decide ((e.id : Int) ≤ t.cursor))

def unseen (t : ProgressTables) : List SourceEvent := t.events.filter (fun e => decide (t.cursor < (e.id : Int)))

structure Projecting (w : Wire) (before : List CorrelationLink) (t : ProgressTables) : Prop where
  ordered : t.events.Pairwise (fun d e => d.id < e.id)
  cursor : 0 ≤ t.cursor ∧ t.cursor ≤ lastId t
  holds : Holds w before (seen t) t
  ready : ∀ early e late, t.events = early ++ e :: late → Ready w before early e

section Runs
variable {w : Wire} {before : List CorrelationLink} {t : ProgressTables}

theorem filter_split {c : Int} : ∀ {l : List SourceEvent}, l.Pairwise (fun d e => d.id < e.id) →
    l.filter (fun e => decide ((e.id : Int) ≤ c)) ++ l.filter (fun e => decide (c < (e.id : Int))) = l
  | [], _ => rfl
  | e :: l, h => by
    obtain ⟨hhead, htail⟩ := List.pairwise_cons.1 h
    by_cases he : (e.id : Int) ≤ c
    · rw [List.filter_cons_of_pos (by simpa using he), List.filter_cons_of_neg (by simpa using he), List.cons_append,
        filter_split htail]
    · have hnone : l.filter (fun d => decide ((d.id : Int) ≤ c)) = [] := by
        refine List.filter_eq_nil_iff.2 (fun d hd => ?_)
        have := hhead d hd
        simp only [decide_eq_true_eq]
        omega
      have hall : l.filter (fun d => decide (c < (d.id : Int))) = l := by
        refine List.filter_eq_self.2 (fun d hd => ?_)
        have := hhead d hd
        simp only [decide_eq_true_eq]
        omega
      rw [List.filter_cons_of_neg (by simpa using he), List.filter_cons_of_pos (by simpa using he), hnone, hall,
        List.nil_append]

theorem Projecting.split (h : Projecting w before t) : seen t ++ unseen t = t.events := filter_split h.ordered

theorem id_le_lastId (h : t.events.Pairwise (fun d e => d.id < e.id)) {e : SourceEvent} (he : e ∈ t.events) :
    e.id ≤ lastId t := by
  unfold lastId
  obtain ⟨early, last, hsplit⟩ := (List.eq_nil_or_concat' t.events).resolve_left (List.ne_nil_of_mem he)
  rw [hsplit] at h he
  rw [hsplit, List.getLast?_concat, Option.map_some, Option.getD_some]
  rcases List.mem_append.1 he with he | he
  · exact ((List.pairwise_append.1 h).2.2 e he last (by simp)).le
  · rw [List.mem_singleton.1 he]

theorem projecting_empty {links : Links} (hs : Sound links) : Projecting w links.rows (emptyLedger links) := by
  refine ⟨List.Pairwise.nil, ⟨le_refl _, le_refl _⟩, ⟨rfl, ?_, hs⟩, fun early e late h => ?_⟩
  · simp [emptyLedger, seen]
  · exact absurd h (by simp [emptyLedger])

theorem Projecting.append (h : Projecting w before t) {gap : Nat} {e : SourceEvent}
    (ha : Admissible w t (.append gap e)) : Projecting w before (progressStep w t (.append gap e)) := by
  unfold progressStep
  simp only
  split
  · rename_i hfits
    have hnew : ∀ d ∈ t.events, d.id < (e.after t gap).id := by
      intro d hd
      have := id_le_lastId h.ordered hd
      show d.id < lastId t + 1 + gap
      omega
    have hlast : lastId { t with events := t.events ++ [e.after t gap] } = (e.after t gap).id := by simp [lastId]
    have hseen : seen { t with events := t.events ++ [e.after t gap] } = seen t := by
      unfold seen
      rw [List.filter_append, List.filter_cons_of_neg, List.filter_nil, List.append_nil]
      have := h.cursor.2
      have : (e.after t gap).id = lastId t + 1 + gap := rfl
      simp only [decide_eq_true_eq]
      omega
    refine ⟨?_, ⟨h.cursor.1, ?_⟩, ?_, fun early d late hsplit => ?_⟩
    · exact List.pairwise_append.2 ⟨h.ordered, List.pairwise_singleton _ _, fun d hd b hb => by
        rw [List.mem_singleton.1 hb]
        exact hnew d hd⟩
    · rw [hlast]
      have := h.cursor.2
      show t.cursor ≤ ((lastId t + 1 + gap : Nat) : Int)
      omega
    · rw [hseen]
      exact ⟨h.holds.rows, h.holds.links, h.holds.sound⟩
    · rcases List.eq_nil_or_concat' late with rfl | ⟨late, last, rfl⟩
      · obtain ⟨rfl, hd⟩ := List.append_inj' hsplit rfl
        obtain rfl : e.after t gap = d := by simpa using hd
        refine ⟨hfits, hnew, fun hsome => { ha.1 hsome with }, fun p hp => ?_⟩
        have hclear := ha.2 p hp
        refine ⟨hclear.trace, hclear.span, fun l hl => hclear.alone l ?_⟩
        rcases List.mem_append.1 hl with hl | hl
        · exact List.mem_append_left _ (by rw [h.holds.links]; exact List.mem_append_left _ hl)
        · exact List.mem_append_right _ hl
      · have hold : t.events = early ++ d :: late := by
          have hshape : t.events ++ [e.after t gap] = (early ++ d :: late) ++ [last] := by
            simpa using hsplit
          exact (List.append_inj' hshape rfl).1
        exact h.ready early d late hold
  · exact h

theorem classifierWindow_eq (t : ProgressTables) : classifierWindow t = (unseen t).take 1000 := rfl

theorem seen_advance {events early win late : List SourceEvent} {c : Int} {last : SourceEvent}
    (hordered : events.Pairwise (fun d e => d.id < e.id)) (hsplit : events = early ++ (win ++ [last]) ++ late)
    (hc : c = (last.id : Int)) :
    events.filter (fun e => decide ((e.id : Int) ≤ c)) = early ++ (win ++ [last]) := by
  subst hsplit
  obtain ⟨hearly, -, hlate⟩ := List.pairwise_append.1 hordered
  rw [List.filter_append, List.filter_eq_self.2, List.filter_eq_nil_iff.2, List.append_nil]
  · intro d hd
    have := hlate last (by simp) d hd
    simp only [decide_eq_true_eq]
    omega
  · intro d hd
    rw [← List.append_assoc] at hd hearly
    have hle : d.id ≤ last.id := by
      rcases List.mem_append.1 hd with hd | hd
      · exact ((List.pairwise_append.1 hearly).2.2 d hd last (by simp)).le
      · rw [List.mem_singleton.1 hd]
    simp only [decide_eq_true_eq]
    omega

/-- **A pass succeeds**: it holds what was unseen up to the end of its window. -/
theorem Projecting.classify (h : Projecting w before t) :
    ∃ t', Holds w before (seen t ++ classifierWindow t) t' ∧ t'.events = t.events ∧
      classifyMaterialProgress w t = (.ok ((classifierWindow t).filterMap (progressOf w)), t') ∧
      t'.cursor = ((classifierWindow t).getLast?.map (fun e => (e.id : Int))).getD t.cursor := by
  have hsplit : t.events = seen t ++ (classifierWindow t ++ (unseen t).drop 1000) := by
    rw [classifierWindow_eq, List.take_append_drop, h.split]
  have hready : ∀ early e late, classifierWindow t = early ++ e :: late → Ready w before (seen t ++ early) e := by
    intro early e late hwindow
    refine h.ready (seen t ++ early) e (late ++ (unseen t).drop 1000) ?_
    rw [hsplit, hwindow]
    simp
  obtain ⟨t₁, hproject, hholds, hevents, hcursor⟩ := project_window (classifierWindow t) [] h.holds hready
  refine ⟨{ t₁ with cursor := ((classifierWindow t).getLast?.map (fun e => (e.id : Int))).getD t.cursor },
    ⟨hholds.rows, hholds.links, hholds.sound⟩, hevents, ?_, rfl⟩
  unfold classifyMaterialProgress transaction classifyBody
  simp only [decide_eq_true h.cursor.1, ensure_true, ok_bind, hproject, List.nil_append, pure_ok]

theorem seen_after (h : Projecting w before t) {t' : ProgressTables} (hevents : t'.events = t.events)
    (hcursor : t'.cursor = ((classifierWindow t).getLast?.map (fun e => (e.id : Int))).getD t.cursor) :
    seen t' = seen t ++ classifierWindow t ∧ unseen t' = (unseen t).drop 1000 ∧ t.cursor ≤ t'.cursor ∧
      t'.cursor ≤ lastId t := by
  have hsplit : t.events = seen t ++ classifierWindow t ++ (unseen t).drop 1000 := by
    rw [List.append_assoc, classifierWindow_eq, List.take_append_drop, h.split]
  have hseen : seen t' = seen t ++ classifierWindow t ∧ t.cursor ≤ t'.cursor ∧ t'.cursor ≤ lastId t := by
    rcases List.eq_nil_or_concat' (classifierWindow t) with hempty | ⟨win, last, hwindow⟩
    · rw [hempty] at hcursor ⊢
      have hsame : t'.cursor = t.cursor := hcursor
      unfold seen
      rw [hevents, hsame, List.append_nil]
      exact ⟨rfl, le_refl _, h.cursor.2⟩
    · have hmove : t'.cursor = (last.id : Int) := by
        rw [hcursor, hwindow, List.getLast?_concat]
        rfl
      have hlast : last ∈ unseen t := by
        have : last ∈ classifierWindow t := by
          rw [hwindow]
          simp
        exact List.mem_of_mem_take this
      have hbeyond : t.cursor < (last.id : Int) := by simpa using (List.mem_filter.1 hlast).2
      have hle := id_le_lastId h.ordered (List.mem_filter.1 hlast).1
      rw [hwindow] at hsplit ⊢
      refine ⟨?_, by omega, by omega⟩
      unfold seen
      rw [hevents]
      exact seen_advance h.ordered hsplit hmove
  refine ⟨hseen.1, ?_, hseen.2⟩
  have hall : seen t' ++ unseen t' = t'.events := filter_split (hevents ▸ h.ordered)
  rw [hseen.1, hevents, hsplit] at hall
  exact List.append_cancel_left hall

/-- **A pass keeps what is kept** and leaves a thousand events fewer unseen. -/
theorem Projecting.pass (h : Projecting w before t) :
    ∃ classified t', classifyMaterialProgress w t = (.ok classified, t') ∧ Projecting w before t' ∧ t.cursor ≤ t'.cursor ∧
      t'.events = t.events ∧ unseen t' = (unseen t).drop 1000 := by
  obtain ⟨t', hholds, hevents, hcall, hcursor⟩ := h.classify
  obtain ⟨hseen, hunseen, hmono, hend⟩ := seen_after h hevents hcursor
  have hlast : lastId t' = lastId t := by
    unfold lastId
    rw [hevents]
  refine ⟨_, t', hcall, ⟨hevents ▸ h.ordered, ⟨h.cursor.1.trans hmono, by rw [hlast]; exact hend⟩, by rw [hseen]; exact hholds,
    hevents ▸ h.ready⟩, hmono, hevents, hunseen⟩

theorem Projecting.step (h : Projecting w before t) {s : ProgressStep} (hs : Admissible w t s) :
    Projecting w before (progressStep w t s) := by
  cases s with
  | append gap e => exact h.append hs
  | pass =>
    obtain ⟨classified, t', hcall, hnext, -⟩ := h.pass
    show Projecting w before (classifyMaterialProgress w t).2
    rw [hcall]
    exact hnext

theorem projecting_run : ∀ (steps : List ProgressStep) {t : ProgressTables}, Projecting w before t →
    Along (progressStep w) (Admissible w) t steps → Projecting w before (run (progressStep w) t steps)
  | [], _, h, _ => h
  | s :: steps, t, h, hs => by
    rw [Trace.run_cons]
    exact projecting_run steps (h.step hs.1) hs.2

theorem passes_reach_end : ∀ (k : Nat) {t : ProgressTables}, Projecting w before t → (unseen t).length ≤ 1000 * k →
    (run (progressStep w) t (List.replicate k .pass)).cursor = lastId t
  | 0, t, h, hk => by
    have hnone : unseen t = [] := List.eq_nil_of_length_eq_zero (by omega)
    have hall : seen t = t.events := by
      have := h.split
      rwa [hnone, List.append_nil] at this
    refine le_antisymm h.cursor.2 ?_
    show (lastId t : Int) ≤ t.cursor
    rcases List.eq_nil_or_concat' t.events with hempty | ⟨early, last, hevents⟩
    · unfold lastId
      rw [hempty]
      exact h.cursor.1
    · have hmem : last ∈ seen t := by
        rw [hall, hevents]
        simp
      unfold lastId
      rw [hevents, List.getLast?_concat]
      simpa using (List.mem_filter.1 hmem).2
  | k + 1, t, h, hk => by
    obtain ⟨classified, t', hcall, hnext, -, hevents, hunseen⟩ := h.pass
    rw [List.replicate_succ, Trace.run_cons, show progressStep w t .pass = t' from congrArg Prod.snd hcall,
      passes_reach_end k hnext (by rw [hunseen, List.length_drop]; omega)]
    unfold lastId
    rw [hevents]

end Runs

/-! ## Projected exactly once -/

def ledgerAfter (w : Wire) (links : Links) (steps : List ProgressStep) : ProgressTables :=
  run (progressStep w) (emptyLedger links) steps

/-- **Material progress is projected exactly once.**  In every history of a ledger whose recognized events are projectable
and whose links clash with no other, a pass succeeds and never moves the cursor back, the records are those of the
recognized events up to the cursor, one each, and enough passes reach the end of the ledger. -/
theorem progress_projected {w : Wire} {links : Links} (hs : Sound links) {steps : List ProgressStep}
    (h : Along (progressStep w) (Admissible w) (emptyLedger links) steps) :
    (∃ classified t', classifyMaterialProgress w (ledgerAfter w links steps) = (.ok classified, t') ∧
      (ledgerAfter w links steps).cursor ≤ t'.cursor ∧ t'.progress.rows = (seen t').filterMap (progressOf w)) ∧
    (ledgerAfter w links steps).progress.rows = (seen (ledgerAfter w links steps)).filterMap (progressOf w) ∧
    ∀ k, (unseen (ledgerAfter w links steps)).length ≤ 1000 * k →
      (run (progressStep w) (ledgerAfter w links steps) (List.replicate k .pass)).cursor =
        lastId (ledgerAfter w links steps) := by
  have hp : Projecting w links.rows (ledgerAfter w links steps) := projecting_run steps (projecting_empty hs) h
  obtain ⟨classified, t', hcall, hnext, hmono, -⟩ := hp.pass
  exact ⟨⟨classified, t', hcall, hmono, hnext.holds.rows⟩, hp.holds.rows, fun k hk => passes_reach_end k hp hk⟩

def verifiedWire : Wire :=
  (tableWire
    [("harness.material-progress.trace.v1:domain-event-1",
        ⟨"ec80583957024815a77ac6d38d1d616712491b7a50093eae1df20994423c348a", isLowerHex_ofList (by decide)⟩),
      ("harness.material-progress.span.v1:progress-validation_advanced-1",
        ⟨"dd07be71d0396178c0f4dd07a2fb90f9849bbe2ce7c3c9bf6b052f38862665cc", isLowerHex_ofList (by decide)⟩),
      ("harness.material-progress.link.v1:domain-event-1:progress-validation_advanced-1",
        ⟨"72f9b81bb4375c3b77dcc35e44bae2796c0162a5d8e1eb91ac1f02cd579ba924", isLowerHex_ofList (by decide)⟩)]
    ["event_id"]
    [([some (.str "progress-validation_advanced-1")],
        ⟨"b661154a1d133e17f98802e4018a46af38c4f410f04fbe8ba0c04549bc45fafa", isLowerHex_ofList (by decide)⟩)]).toWire

def taskVerified : SourceEvent := ⟨0, some "r", "task", "t", "task.verified", 5, .obj []⟩

theorem verified_task_projected :
    Along (progressStep verifiedWire) (Admissible verifiedWire) (emptyLedger ∅) [.append 0 taskVerified, .pass] ∧
    (ledgerAfter verifiedWire ∅ [.append 0 taskVerified, .pass]).progress.rows.map MaterialProgressEvent.eventId =
      ["progress-validation_advanced-1"] ∧
    (ledgerAfter verifiedWire ∅ [.append 0 taskVerified, .pass]).progress.rows =
      (seen (ledgerAfter verifiedWire ∅ [.append 0 taskVerified, .pass])).filterMap (progressOf verifiedWire) := by
  have hprojectable : Projectable taskVerified := by
    refine ⟨fun r hr => ?_, fun _ => by decide, fun v hv => ?_, by decide⟩
    · cases hr
      decide
    · cases hv
  have hclear : ∀ p, progressOf verifiedWire (taskVerified.after (emptyLedger ∅) 0) = some p →
      Clear verifiedWire ((emptyLedger ∅).links.rows ++ linksOfEvents verifiedWire (emptyLedger ∅).events) p := by
    intro p hp
    obtain ⟨kind, summary, hc, rfl⟩ := progressOf_some hp
    cases hc
    exact ⟨by decide, by decide, fun l hl => by cases hl⟩
  have halong : Along (progressStep verifiedWire) (Admissible verifiedWire) (emptyLedger ∅)
      [.append 0 taskVerified, .pass] := ⟨⟨fun _ => hprojectable, hclear⟩, trivial, trivial⟩
  exact ⟨halong, by decide, (progress_projected sound_empty halong).2.1⟩

/-! ## A milestone with a long id -/

/-- **An event that is recognized and not projectable** refuses every pass that meets it first. -/
theorem pass_refused {w : Wire} {t : ProgressTables} {e : SourceEvent} {rest : List SourceEvent}
    (hwindow : classifierWindow t = e :: rest) (hfits : fitsI64 e.id = true) (hsome : (classifySourceEvent e).isSome = true)
    (hbad : ¬ Projectable e) : ∃ error, classifyMaterialProgress w t = (.error error, t) := by
  obtain ⟨⟨kind, summary⟩, hc⟩ := Option.isSome_iff_exists.1 hsome
  have hinvalid : ∃ error, (progressRecord w e kind summary).validate w = .error error := by
    cases hv : (progressRecord w e kind summary).validate w with
    | error error => exact ⟨error, rfl⟩
    | ok u => exact absurd ((validate_record_iff hfits hc).1 hv) hbad
  obtain ⟨error, hv⟩ := hinvalid
  have hproject : projectEvents w (classifierWindow t) [] t = .error error := by
    rw [hwindow]
    unfold projectEvents projectEvent materialProgressFromSource
    simp only [hc, validateIdentifier_ok.2 (safe_progressId kind hfits), ok_bind, hv]
    rfl
  rcases transaction_cases (classifyBody w) t with ⟨error', -, hcall⟩ | ⟨classified, t', hb, -⟩
  · exact ⟨error', hcall⟩
  · unfold classifyBody at hb
    obtain ⟨-, hb⟩ := ensure_bind_ok.1 hb
    rw [hproject] at hb
    cases hb

def withMilestone (id : String) : Governor.GovernorCheckpoint :=
  Governor.progressing 2 id [Governor.slice "M1" "completed", Governor.slice "M2" "pending", Governor.slice "M3" "pending",
    Governor.slice id "in_progress"]

theorem withMilestone_valid {id : String} (hid : (Session.trim id).isEmpty = false) (hnew : id ∉ ["M1", "M2", "M3"]) :
    Governor.validateGovernorCheckpoint (Plan.packet "T1" [] []) (withMilestone id) = .ok () := by
  simp only [List.mem_cons, List.not_mem_nil, or_false, not_or] at hnew
  have htrim : (Session.trim "M1").isEmpty = false ∧ (Session.trim "M2").isEmpty = false ∧
      (Session.trim "M3").isEmpty = false ∧ (Session.trim "Slice").isEmpty = false ∧
      (Session.trim "Built").isEmpty = false := by decide
  have hledger : Governor.validateLedger [] (withMilestone id).milestones = .ok () := by
    simp [withMilestone, Governor.progressing, Governor.slice, Governor.validateLedger, Plan.check, htrim, hid, hnew]
  have hplanned : ((Plan.packet "T1" [] []).milestones.forM (fun planned => Plan.check
      ((withMilestone id).milestones.any (fun m => m.id == planned.id))
      ("governor checkpoint omitted planned milestone " ++ planned.id))) = .ok () := by
    simp [Plan.packet, Plan.milestone, withMilestone, Governor.progressing, Governor.slice, Plan.check]
  have hstatus : Governor.validateStatus (withMilestone id) = .ok () := by
    simp [Governor.validateStatus, withMilestone, Governor.progressing, Governor.slice, Governor.countStatus, Plan.check]
  have hcurrent : Governor.validateCurrent (withMilestone id) = .ok () := by
    simp [Governor.validateCurrent, withMilestone, Governor.progressing, Governor.slice, Plan.check, Ne.symm hnew.1,
      Ne.symm hnew.2.1, Ne.symm hnew.2.2]
  unfold Governor.validateGovernorCheckpoint
  rw [hledger, hplanned, hstatus, hcurrent]
  simp [withMilestone, Governor.progressing, Plan.check]

def checkpointEvent (milestone : String) : SourceEvent :=
  ⟨0, some "r", "task", "t", "task.governor.progress_updated", 5, checkpointPayload "a" "g" (withMilestone milestone)⟩

def firstCheckpoint (milestone : String) : SourceEvent := { checkpointEvent milestone with id := 1 }

theorem firstCheckpoint_recognized (milestone : String) : (classifySourceEvent (firstCheckpoint milestone)).isSome = true := by
  have hcount : Governor.countStatus (withMilestone milestone) "completed" = 1 := by
    simp [Governor.countStatus, withMilestone, Governor.progressing, Governor.slice]
  have hcompleted : completesMilestone (checkpointPayload "a" "g" (withMilestone milestone)) = true := by
    unfold checkpointPayload
    rw [hcount]
    rfl
  unfold classifySourceEvent firstCheckpoint checkpointEvent
  rw [if_neg (show ¬ "task.governor.progress_updated" = "task.governor.candidate_materialized" by decide),
    if_neg (show ¬ "task.governor.progress_updated" = "task.verified" by decide),
    if_neg (show ¬ "task.governor.progress_updated" = "run.integration.prepared" by decide),
    if_neg (show ¬ conditionEvents.contains "task.governor.progress_updated" = true by decide),
    if_pos ⟨rfl, hcompleted⟩]
  rfl

theorem firstCheckpoint_bad {milestone : String} (hlong : 3990 < milestone.toList.length) :
    ¬ Projectable (firstCheckpoint milestone) := by
  intro h
  have := h.milestone milestone rfl
  omega

/-- **Once the event of a long milestone is in the ledger** no pass succeeds and the cursor stands. -/
theorem wedged {w : Wire} {milestone : String} (hlong : 3990 < milestone.toList.length) (k : Nat) :
    (ledgerAfter w ∅ (.append 0 (checkpointEvent milestone) :: List.replicate k .pass)).cursor = 0 ∧
      ∃ error, (classifyMaterialProgress w
        (ledgerAfter w ∅ (.append 0 (checkpointEvent milestone) :: List.replicate k .pass))).1 = .error error := by
  have hfirst : progressStep w (emptyLedger ∅) (.append 0 (checkpointEvent milestone)) =
      ⟨[firstCheckpoint milestone], 0, ∅, ∅⟩ := rfl
  obtain ⟨error, hcall⟩ := pass_refused (w := w) (t := ⟨[firstCheckpoint milestone], 0, ∅, ∅⟩) rfl
    (show fitsI64 1 = true by decide) (firstCheckpoint_recognized milestone) (firstCheckpoint_bad hlong)
  have hpass : progressStep w ⟨[firstCheckpoint milestone], 0, ∅, ∅⟩ .pass = ⟨[firstCheckpoint milestone], 0, ∅, ∅⟩ :=
    congrArg Prod.snd hcall
  have hstays : ∀ k, run (progressStep w) ⟨[firstCheckpoint milestone], 0, ∅, ∅⟩ (List.replicate k .pass) =
      ⟨[firstCheckpoint milestone], 0, ∅, ∅⟩ := by
    intro k
    induction k with
    | zero => rfl
    | succ k ih => rw [List.replicate_succ, Trace.run_cons, hpass, ih]
  have hafter : ledgerAfter w ∅ (.append 0 (checkpointEvent milestone) :: List.replicate k .pass) =
      ⟨[firstCheckpoint milestone], 0, ∅, ∅⟩ := by
    unfold ledgerAfter
    rw [Trace.run_cons, hfirst]
    exact hstays k
  rw [hafter]
  exact ⟨rfl, error, congrArg Prod.fst hcall⟩

def longMilestone : String := String.ofList (List.replicate 3991 'a')

/-- A checkpoint with the long milestone is valid, and its event stops the classifier for ever. -/
theorem long_milestone_wedges :
    Governor.validateGovernorCheckpoint (Plan.packet "T1" [] []) (withMilestone longMilestone) = .ok () ∧
    ∀ k, (ledgerAfter verifiedWire ∅ (.append 0 (checkpointEvent longMilestone) :: List.replicate k .pass)).cursor = 0 ∧
      ∃ error, (classifyMaterialProgress verifiedWire
        (ledgerAfter verifiedWire ∅ (.append 0 (checkpointEvent longMilestone) :: List.replicate k .pass))).1 =
          .error error := by
  have htext : longMilestone.toList = List.replicate 3991 'a' := String.toList_ofList
  have hlength : longMilestone.toList.length = 3991 := by rw [htext, List.length_replicate]
  have hchar : 'a' ∈ longMilestone.toList := by
    rw [htext]
    exact List.mem_replicate.2 ⟨by omega, rfl⟩
  have hnew : longMilestone ∉ ["M1", "M2", "M3"] := by
    intro hmem
    simp only [List.mem_cons, List.not_mem_nil, or_false] at hmem
    rcases hmem with h | h | h
    · rw [h] at hlength
      exact absurd hlength (by decide)
    · rw [h] at hlength
      exact absurd hlength (by decide)
    · rw [h] at hlength
      exact absurd hlength (by decide)
  exact ⟨withMilestone_valid (Plan.trim_isEmpty_false hchar (by decide)) hnew,
    fun k => wedged (by rw [hlength]; omega) k⟩

end Control
end Bildr
