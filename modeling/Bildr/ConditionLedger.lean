import Bildr.Conditions
import Bildr.NotificationMirror
/-!
# ConditionLedger — what the calls on external conditions keep

A condition is as far as it was observed: its observations are numbered from one without a gap, and it shows what the
last of them says.  Every observation has its causal link, and the event it was recorded with is there once however often
the observation is reported again.  A condition that is over is not observed any more.
-/
namespace Bildr
namespace Control

open Json (Value)
open Trace (run)

/-! ## The calls -/

inductive ConditionCall
  | register (c : ExternalCondition)
  | registerOrRead (c : ExternalCondition)
  | record (conditionId : String) (expectedVersion : Nat) (o : ConditionObservation) (now : Int)
  | recordAndEmit (conditionId : String) (expectedVersion : Nat) (o : ConditionObservation)
      (event : ConditionMaterialEvent) (now : Int)

def performCondition (w : Wire) : ConditionCall → Call ConditionTables ExternalCondition
  | .register c => registerExternalCondition w c
  | .registerOrRead c => registerOrReadExternalConditionBySourceIdentity w c
  | .record id v o now => recordExternalConditionObservation w id v o now
  | .recordAndEmit id v o event now => recordExternalConditionObservationAndEmit w id v o event now

def conditionStep (w : Wire) (t : ConditionTables) (c : ConditionCall) : ConditionTables := (performCondition w c t).2

def ConditionTables.unconditioned (t : ConditionTables) : ConditionTables where
  control := { t.control with links := t.control.links.delete (fun l => l.toKind == "condition_observation") }
  events := t.events.filter (fun e => !(e.aggregateType == "external_condition"))
  conditions := ∅
  observations := ∅

def conditionsAfter (w : Wire) (t : ConditionTables) (calls : List ConditionCall) : ConditionTables :=
  run (conditionStep w) t.unconditioned calls

def observedOf (t : ConditionTables) (id : String) : List ConditionObservation :=
  t.observations.rows.filter (fun o => o.conditionId == id)

def conditionLink (w : Wire) (o : ConditionObservation) : CorrelationLink :=
  ⟨"harness.correlation-link.v1",
    "correlation-" ++ (w.sha256 ("harness.condition-observation.link.v1:" ++ o.observationId)).take 48,
    ⟨(w.sha256 ("harness.condition-observation.trace.v1:" ++ o.observationId)).take 32,
      (w.sha256 ("harness.condition-observation.span.v1:" ++ o.observationId)).take 16, none⟩,
    "external_condition", o.conditionId, "condition_observation", o.observationId, "observed_as", o.observedAtMs⟩

theorem conditionLink_eq (w : Wire) (o : ConditionObservation) :
    conditionObservationCorrelationLink w o = .ok (conditionLink w o) := derivedLink_eq w _ _ _ _ _ _ _ _ _

def leadsTo (id : String) (l : CorrelationLink) : Bool := l.toKind == "condition_observation" && l.toId == id

def tellsOf (id source : String) (e : SourceEvent) : Bool :=
  e.aggregateType == "external_condition" && e.aggregateId == id &&
    decide (e.payload.get "source_event_id" = some (.str source))

structure ConditionLedger (w : Wire) (t : ConditionTables) : Prop where
  numbered : ∀ c ∈ t.conditions.rows,
    (observedOf t c.conditionId).map ConditionObservation.sequence = List.range' 1 c.sequence
  version : ∀ c ∈ t.conditions.rows, c.version = c.sequence + 1
  latest : ∀ c ∈ t.conditions.rows, c.lastObservation = (observedOf t c.conditionId).getLast?
  state : ∀ c ∈ t.conditions.rows, c.state = (c.lastObservation.map ConditionObservation.state).getD .open
  single : ∀ c ∈ t.conditions.rows, ∀ d ∈ t.conditions.rows, c.adapter = d.adapter → c.sourceId = d.sourceId → c = d
  linked : ∀ o ∈ t.observations.rows, t.control.links.rows.filter (leadsTo o.observationId) = [conditionLink w o]

theorem ConditionLedger.counted {w : Wire} {t : ConditionTables} (h : ConditionLedger w t) {c : ExternalCondition}
    (hc : c ∈ t.conditions.rows) : c.sequence = (observedOf t c.conditionId).length := by
  have hlength := congrArg List.length (h.numbered c hc)
  rw [List.length_map, List.length_range'] at hlength
  exact hlength.symm

/-! ## What a call does -/

/-- What a call does: nothing, one condition more, or one observation more. -/
inductive ConditionChange (w : Wire) (t t' : ConditionTables) : Prop
  | same (h : t' = t)
  | registered (c : ExternalCondition) (new : c.isNew = true) (fresh : t.conditions.get c.conditionId = none)
      (alone : ∀ d ∈ t.conditions.rows, d.adapter = c.adapter → d.sourceId ≠ c.sourceId)
      (conditions : t'.conditions.rows = t.conditions.rows ++ [c]) (rest : t' = { t with conditions := t'.conditions })
  | observed (c : ExternalCondition) (o : ConditionObservation) (event : Option ConditionMaterialEvent) (now : Int)
      (stored : t.conditions.get o.conditionId = some c) (active : c.state.isTerminal = false)
      (next : o.sequence = c.sequence + 1)
      (unseen : ∀ p ∈ t.observations.rows, p.conditionId = o.conditionId → p.sourceEventId ≠ o.sourceEventId)
      (observations : insertRow t.observations o = .ok t'.observations)
      (links : recordCorrelationLinkInTransaction t.control.links (conditionLink w o) = .ok t'.control.links)
      (conditions : ∀ d, d ∈ t'.conditions.rows ↔ d = c.after w o ∨ d ∈ t.conditions.rows ∧ d.conditionId ≠ o.conditionId)
      (events : t'.events = emitMaterialEvent t.events (c.after w o) o now event)

theorem register_change {w : Wire} {same : ExternalCondition → ExternalCondition → Bool} {why : String}
    {c a : ExternalCondition} {t t' : ConditionTables} (h : registerBody w same why c t = .ok (a, t')) :
    ConditionChange w t t' := by
  unfold registerBody at h
  obtain ⟨-, h⟩ := bind_unit_ok.1 h
  obtain ⟨hnew, h⟩ := ensure_bind_ok.1 h
  cases hf : t.conditions.rows.find? (fun r => decide (r.adapter = c.adapter) && r.sourceId == c.sourceId) with
  | some row =>
    simp only [hf] at h
    obtain ⟨existing, -, h⟩ := bind_ok h
    obtain ⟨-, h⟩ := ensure_bind_ok.1 h
    cases h
    exact .same rfl
  | none =>
    simp only [hf] at h
    obtain ⟨conditions, hconditions, h⟩ := bind_ok h
    cases h
    obtain ⟨hfresh, hrows⟩ := insertRow_ok_iff.1 hconditions
    refine .registered c hnew (Table.get_none.2 (fun d hd hid => hfresh (List.mem_map.2 ⟨d, hd, hid⟩)))
      (fun d hd hadapter hsource => ?_) hrows rfl
    exact List.find?_eq_none.1 hf d hd (by simp [hadapter, hsource])

theorem observe_change {w : Wire} {id : String} {v : Nat} {o : ConditionObservation}
    {event : Option ConditionMaterialEvent} {now : Int} {a : ExternalCondition} {t t' : ConditionTables}
    (h : observationInnerBody w id v o event now t = .ok (a, t')) :
    (t' = t ∧ o.conditionId = id ∧ materialEventPresent t.events o event = true) ∨
    ∃ c, o.conditionId = id ∧ t.conditions.get o.conditionId = some c ∧ c.state.isTerminal = false ∧
      o.sequence = c.sequence + 1 ∧
      (∀ p ∈ t.observations.rows, p.conditionId = o.conditionId → p.sourceEventId ≠ o.sourceEventId) ∧
      insertRow t.observations o = .ok t'.observations ∧
      recordCorrelationLinkInTransaction t.control.links (conditionLink w o) = .ok t'.control.links ∧
      (∀ d, d ∈ t'.conditions.rows ↔ d = c.after w o ∨ d ∈ t.conditions.rows ∧ d.conditionId ≠ o.conditionId) ∧
      t'.events = emitMaterialEvent t.events (c.after w o) o now event := by
  unfold observationInnerBody at h
  obtain ⟨-, h⟩ := bind_unit_ok.1 h
  obtain ⟨hid, h⟩ := ensure_bind_ok.1 h
  obtain ⟨link, hlink, h⟩ := bind_ok h
  obtain ⟨-, -, h⟩ := bind_ok h
  rw [conditionLink_eq] at hlink
  cases hlink
  have hid' : o.conditionId = id := by simpa using hid
  cases hf : t.observations.rows.find? (fun r => r.conditionId == id && r.sourceEventId == o.sourceEventId) with
  | some existing =>
    simp only [hf] at h
    unfold replayObservation at h
    obtain ⟨-, h⟩ := ensure_bind_ok.1 h
    obtain ⟨-, h⟩ := ensure_bind_ok.1 h
    obtain ⟨row, -, h⟩ := bind_ok h
    obtain ⟨current, -, h⟩ := bind_ok h
    obtain ⟨-, h⟩ := bind_unit_ok.1 h
    obtain ⟨hpresent, h⟩ := ensure_bind_ok.1 h
    obtain ⟨-, h⟩ := bind_unit_ok.1 h
    cases h
    exact Or.inl ⟨rfl, hid', hpresent⟩
  | none =>
    simp only [hf] at h
    unfold observeCondition at h
    obtain ⟨c, hstored, h⟩ := bind_ok h
    obtain ⟨-, h⟩ := bind_unit_ok.1 h
    obtain ⟨-, h⟩ := bind_unit_ok.1 h
    obtain ⟨-, -, h⟩ := bind_ok h
    obtain ⟨-, h⟩ := ensure_bind_ok.1 h
    obtain ⟨hactive, h⟩ := ensure_bind_ok.1 h
    obtain ⟨hnext, h⟩ := ensure_bind_ok.1 h
    obtain ⟨-, h⟩ := bind_unit_ok.1 h
    obtain ⟨-, -, h⟩ := bind_ok h
    obtain ⟨observations, hobservations, h⟩ := bind_ok h
    obtain ⟨links, hlinks, h⟩ := bind_ok h
    cases h
    have hget := okOr_ok hstored
    refine Or.inr ⟨c, hid', hget, by simpa using hactive, by simpa using hnext, fun p hp hpid hsource => ?_,
      hobservations, hlinks, fun d => ?_, rfl⟩
    · exact List.find?_eq_none.1 hf p hp (by simp [hpid, hid', hsource])
    · have hreplaces := Table.replaces_update (fun r => { c.after w o with conditionId := r.conditionId })
        (fun _ => rfl) hget
      exact (hreplaces.mem d).trans (or_congr Iff.rfl (and_congr_right (fun _ => by rw [Table.key_of_get hget])))

theorem performCondition_change (w : Wire) (t : ConditionTables) (call : ConditionCall) :
    ConditionChange w t (conditionStep w t call) := by
  have hobserved : ∀ {id : String} {v : Nat} {o : ConditionObservation} {event : Option ConditionMaterialEvent} {now : Int}
      {a : ExternalCondition} {t' : ConditionTables}, observationInnerBody w id v o event now t = .ok (a, t') →
      ConditionChange w t t' := by
    intro id v o event now a t' h
    rcases observe_change h with ⟨rfl, -⟩ | ⟨c, -, hs, ha, hn, hu, ho, hl, hc, he⟩
    · exact .same rfl
    · exact .observed c o event now hs ha hn hu ho hl hc he
  cases call with
  | register c => exact transaction_after (P := ConditionChange w t) (.same rfl) (fun a t' hb => register_change hb)
  | registerOrRead c => exact transaction_after (P := ConditionChange w t) (.same rfl) (fun a t' hb => register_change hb)
  | record id v o now => exact transaction_after (P := ConditionChange w t) (.same rfl) (fun a t' hb => hobserved hb)
  | recordAndEmit id v o event now =>
    refine transaction_after (P := ConditionChange w t) (.same rfl) (fun a t' hb => ?_)
    obtain ⟨-, hb⟩ := bind_unit_ok.1 hb
    obtain ⟨-, hb⟩ := ensure_bind_ok.1 hb
    exact hobserved hb

/-! ## Texts of an event -/

theorem lookup_insertField (key : String) (v : Value) (k : String) : ∀ (fields : List (String × Value)),
    (Json.insertField key v fields).lookup k = if k = key then some v else fields.lookup k
  | [] => by
    unfold Json.insertField
    rw [List.lookup_cons, List.lookup_nil]
    by_cases hk : k = key
    · simp [hk]
    · have : (k == key) = false := by simpa using hk
      rw [this, if_neg hk]
  | (j, x) :: fields => by
    unfold Json.insertField
    by_cases hj : key = j
    · subst hj
      rw [if_pos rfl, List.lookup_cons, List.lookup_cons]
      by_cases hk : k = key
      · simp [hk]
      · have : (k == key) = false := by simpa using hk
        rw [this, if_neg hk]
    · rw [if_neg hj]
      by_cases hlt : key < j
      · rw [if_pos hlt, List.lookup_cons]
        by_cases hk : k = key
        · simp [hk]
        · have : (k == key) = false := by simpa using hk
          rw [this, if_neg hk]
      · rw [if_neg hlt, List.lookup_cons, List.lookup_cons, lookup_insertField key v k fields]
        by_cases hkj : k = j
        · subst hkj
          simp [Ne.symm hj]
        · have : (k == j) = false := by simpa using hkj
          rw [this]

theorem get_put {v : Value} (hv : isObject v = true) (key : String) (x : Value) (k : String) :
    (v.put key x).get k = if k = key then some x else v.get k := by
  cases v with
  | obj fields => exact lookup_insertField key x k fields
  | _ => cases hv

theorem isObject_put {v : Value} (hv : isObject v = true) (key : String) (x : Value) : isObject (v.put key x) = true := by
  cases v with
  | obj fields => rfl
  | _ => cases hv

theorem get_boundPayload {v : Value} (hv : isObject v = true) (c : ExternalCondition) (o : ConditionObservation) :
    (boundPayload v c o).get "source_event_id" = some (.str o.sourceEventId) := by
  unfold boundPayload
  have h1 := isObject_put hv "source_event_id" (.str o.sourceEventId)
  have h2 := isObject_put h1 "condition_id" (.str c.conditionId)
  have h3 := isObject_put h2 "condition_version" (ofNat c.version)
  have h4 := isObject_put h3 "condition_sha256" (.str c.sha256)
  rw [get_put h4, if_neg (by decide), get_put h3, if_neg (by decide), get_put h2, if_neg (by decide), get_put h1,
    if_neg (by decide), get_put hv, if_pos rfl]

/-! ## What the tables keep -/

/-- Every observation has its condition, and what is said of a condition was observed. -/
structure ConditionsKept (w : Wire) (t : ConditionTables) : Prop extends ConditionLedger w t where
  owned : ∀ o ∈ t.observations.rows, ∃ c ∈ t.conditions.rows, c.conditionId = o.conditionId
  known : ∀ l ∈ t.control.links.rows, l.toKind = "condition_observation" → ∃ o ∈ t.observations.rows, o.observationId = l.toId
  told : ∀ id source, ∀ e ∈ t.events, tellsOf id source e = true →
    ∃ o ∈ t.observations.rows, o.conditionId = id ∧ o.sourceEventId = source
  once : ∀ id source, t.events.countP (tellsOf id source) ≤ 1

theorem conditionsKept_new (w : Wire) (t : ConditionTables) : ConditionsKept w t.unconditioned where
  numbered := fun _ hc => by cases hc
  version := fun _ hc => by cases hc
  latest := fun _ hc => by cases hc
  state := fun _ hc => by cases hc
  single := fun _ hc => by cases hc
  linked := fun _ ho => by cases ho
  owned := fun _ ho => by cases ho
  known := fun l hl hkind => by
    have := (Table.mem_delete.1 hl).2
    simp [hkind] at this
  told := fun id source e he htells => by
    have := (List.mem_filter.1 he).2
    unfold tellsOf at htells
    simp only [Bool.and_eq_true] at htells
    rw [htells.1.1] at this
    cases this
  once := fun id source => by
    rw [List.countP_eq_zero.2]
    · omega
    · intro e he htells
      have := (List.mem_filter.1 he).2
      unfold tellsOf at htells
      simp only [Bool.and_eq_true] at htells
      rw [htells.1.1] at this
      cases this

theorem ConditionsKept.registered {w : Wire} {t t' : ConditionTables} (h : ConditionsKept w t) {c : ExternalCondition}
    (hnew : c.isNew = true) (hfresh : t.conditions.get c.conditionId = none)
    (halone : ∀ d ∈ t.conditions.rows, d.adapter = c.adapter → d.sourceId ≠ c.sourceId)
    (hrows : t'.conditions.rows = t.conditions.rows ++ [c]) (hrest : t' = { t with conditions := t'.conditions }) :
    ConditionsKept w t' := by
  have hobs : t'.observations = t.observations := by rw [hrest]
  have hevents : t'.events = t.events := by rw [hrest]
  have hcontrol : t'.control = t.control := by rw [hrest]
  have hof : ∀ id, observedOf t' id = observedOf t id := fun id => by
    unfold observedOf
    rw [hobs]
  have hnone : observedOf t c.conditionId = [] := by
    unfold observedOf
    refine List.filter_eq_nil_iff.2 (fun o ho hid => ?_)
    obtain ⟨d, hd, hdo⟩ := h.owned o ho
    exact Table.get_none.1 hfresh d hd (hdo.trans (by simpa using hid))
  have hmem : ∀ d, d ∈ t'.conditions.rows ↔ d ∈ t.conditions.rows ∨ d = c := by
    intro d
    rw [hrows, List.mem_append, List.mem_singleton]
  unfold ExternalCondition.isNew at hnew
  simp only [Bool.and_eq_true, decide_eq_true_eq, beq_iff_eq, Option.isNone_iff_eq_none] at hnew
  obtain ⟨⟨⟨hopen, hsequence⟩, hversion⟩, hlast⟩ := hnew
  refine ⟨⟨fun d hd => ?_, fun d hd => ?_, fun d hd => ?_, fun d hd => ?_, fun d hd e he hadapter hsource => ?_, ?_⟩,
    fun o ho => ?_, ?_, ?_, ?_⟩
  · rw [hof]
    rcases (hmem d).1 hd with hd | rfl
    · exact h.numbered d hd
    · rw [hnone, hsequence]
      rfl
  · rcases (hmem d).1 hd with hd | rfl
    · exact h.version d hd
    · omega
  · rw [hof]
    rcases (hmem d).1 hd with hd | rfl
    · exact h.latest d hd
    · rw [hnone, hlast]
      rfl
  · rcases (hmem d).1 hd with hd | rfl
    · exact h.state d hd
    · rw [hlast, hopen]
      rfl
  · rcases (hmem d).1 hd with hd | rfl
    · rcases (hmem e).1 he with he | rfl
      · exact h.single d hd e he hadapter hsource
      · exact absurd hsource (halone d hd hadapter)
    · rcases (hmem e).1 he with he | rfl
      · exact absurd hsource.symm (halone e he hadapter.symm)
      · rfl
  · rw [hobs, hcontrol]
    exact h.linked
  · rw [hobs] at ho
    obtain ⟨d, hd, hid⟩ := h.owned o ho
    exact ⟨d, (hmem d).2 (Or.inl hd), hid⟩
  · rw [hobs, hcontrol]
    exact h.known
  · rw [hobs, hevents]
    exact h.told
  · rw [hevents]
    exact h.once

theorem observedOf_other {t t' : ConditionTables} {o : ConditionObservation}
    (h : t'.observations.rows = t.observations.rows ++ [o]) {id : String} (hid : o.conditionId ≠ id) :
    observedOf t' id = observedOf t id := by
  unfold observedOf
  rw [h, List.filter_append, List.filter_cons_of_neg (by simpa using hid), List.filter_nil, List.append_nil]

theorem observedOf_own {t t' : ConditionTables} {o : ConditionObservation}
    (h : t'.observations.rows = t.observations.rows ++ [o]) : observedOf t' o.conditionId = observedOf t o.conditionId ++ [o] := by
  unfold observedOf
  rw [h, List.filter_append, List.filter_cons_of_pos (by simp), List.filter_nil]

theorem ConditionsKept.link_new {w : Wire} {t : ConditionTables} (h : ConditionsKept w t) {o : ConditionObservation}
    {links : Links} (hnew : o.observationId ∉ t.observations.rows.map ConditionObservation.observationId)
    (hl : recordCorrelationLinkInTransaction t.control.links (conditionLink w o) = .ok links) :
    links.rows = t.control.links.rows ++ [conditionLink w o] ∧
      t.control.links.rows.filter (leadsTo o.observationId) = [] := by
  have hnone : ∀ l ∈ t.control.links.rows, leadsTo o.observationId l = false := by
    intro l hmem
    by_contra hlead
    rw [Bool.not_eq_false, leadsTo, Bool.and_eq_true, beq_iff_eq, beq_iff_eq] at hlead
    obtain ⟨p, hp, hid⟩ := h.known l hmem hlead.1
    exact hnew (List.mem_map.2 ⟨p, hp, hid.trans hlead.2⟩)
  refine ⟨?_, List.filter_eq_nil_iff.2 (fun l hmem hlead => ?_)⟩
  · rcases record_cases hl with ⟨hget, -⟩ | ⟨-, -, hrows⟩
    · have hlead : leadsTo o.observationId (conditionLink w o) = true := by
        unfold leadsTo conditionLink
        simp
      rw [hnone _ (Table.mem_of_get hget)] at hlead
      cases hlead
    · exact hrows
  · rw [hnone l hmem] at hlead
    cases hlead

def materialEvent (events : List SourceEvent) (c : ExternalCondition) (o : ConditionObservation) (now : Int)
    (event : ConditionMaterialEvent) : SourceEvent :=
  ⟨nextEventId events, some event.runId, "external_condition", c.conditionId, event.eventType, now,
    boundPayload event.payload c o⟩

theorem emit_some (events : List SourceEvent) (c : ExternalCondition) (o : ConditionObservation) (now : Int)
    (event : ConditionMaterialEvent) : emitMaterialEvent events c o now (some event) =
      events ++ [materialEvent events c o now event] := rfl

theorem materialEvent_tells (events : List SourceEvent) (c : ExternalCondition) (o : ConditionObservation) (now : Int)
    (event : ConditionMaterialEvent) (id source : String) :
    tellsOf id source (materialEvent events c o now event) = true ↔
      c.conditionId = id ∧ o.sourceEventId = source ∧ isObject event.payload = true := by
  unfold tellsOf materialEvent
  by_cases hobject : isObject event.payload = true
  · rw [get_boundPayload hobject]
    simp [hobject]
  · have hnone : (boundPayload event.payload c o).get "source_event_id" = none := by
      cases hp : event.payload with
      | obj fields => exact absurd (by rw [hp]; rfl) hobject
      | _ => rfl
    rw [hnone]
    simp [hobject]

theorem events_grow {events : List SourceEvent} {c : ExternalCondition} {o : ConditionObservation} {now : Int}
    {event : Option ConditionMaterialEvent} : events <+: emitMaterialEvent events c o now event := by
  cases event with
  | none => exact List.prefix_rfl
  | some event => exact List.prefix_append _ _

theorem ConditionsKept.observed {w : Wire} {t t' : ConditionTables} (h : ConditionsKept w t) {c : ExternalCondition}
    {o : ConditionObservation} {event : Option ConditionMaterialEvent} {now : Int}
    (hstored : t.conditions.get o.conditionId = some c) (hnext : o.sequence = c.sequence + 1)
    (hunseen : ∀ p ∈ t.observations.rows, p.conditionId = o.conditionId → p.sourceEventId ≠ o.sourceEventId)
    (hobservations : insertRow t.observations o = .ok t'.observations)
    (hlinks : recordCorrelationLinkInTransaction t.control.links (conditionLink w o) = .ok t'.control.links)
    (hconditions : ∀ d, d ∈ t'.conditions.rows ↔ d = c.after w o ∨ d ∈ t.conditions.rows ∧ d.conditionId ≠ o.conditionId)
    (hevents : t'.events = emitMaterialEvent t.events (c.after w o) o now event) : ConditionsKept w t' := by
  obtain ⟨hc, hid⟩ := Table.get_some.1 hstored
  obtain ⟨hnew, hrows⟩ := insertRow_ok_iff.1 hobservations
  obtain ⟨hlinkRows, hunlinked⟩ := h.link_new hnew hlinks
  have hown : observedOf t' o.conditionId = observedOf t c.conditionId ++ [o] := by
    rw [hid]
    exact observedOf_own hrows
  have hother : ∀ d : ExternalCondition, d.conditionId ≠ o.conditionId → observedOf t' d.conditionId = observedOf t d.conditionId :=
    fun d hd => observedOf_other hrows (Ne.symm hd)
  have hobs : ∀ p, p ∈ t'.observations.rows ↔ p ∈ t.observations.rows ∨ p = o := by
    intro p
    rw [hrows, List.mem_append, List.mem_singleton]
  have hafter : (c.after w o).conditionId = o.conditionId := hid
  refine ⟨⟨fun d hd => ?_, fun d hd => ?_, fun d hd => ?_, fun d hd => ?_, fun d hd e he hadapter hsource => ?_,
    fun p hp => ?_⟩, fun p hp => ?_, fun l hl hkind => ?_, fun id source e he htells => ?_, fun id source => ?_⟩
  · rcases (hconditions d).1 hd with rfl | ⟨hd, hne⟩
    · rw [hafter, hown, List.map_append, h.numbered c hc, List.map_singleton]
      show List.range' 1 c.sequence ++ [o.sequence] = List.range' 1 o.sequence
      rw [hnext, List.range'_concat, Nat.one_mul, Nat.add_comm 1]
    · rw [hother d hne]
      exact h.numbered d hd
  · rcases (hconditions d).1 hd with rfl | ⟨hd, -⟩
    · have := h.version c hc
      show c.version + 1 = o.sequence + 1
      omega
    · exact h.version d hd
  · rcases (hconditions d).1 hd with rfl | ⟨hd, hne⟩
    · rw [hafter, hown, List.getLast?_concat]
      rfl
    · rw [hother d hne]
      exact h.latest d hd
  · rcases (hconditions d).1 hd with rfl | ⟨hd, -⟩
    · rfl
    · exact h.state d hd
  · rcases (hconditions d).1 hd with rfl | ⟨hd, hdn⟩
    · rcases (hconditions e).1 he with rfl | ⟨he, hen⟩
      · rfl
      · have := h.single c hc e he hadapter hsource
        exact absurd (this ▸ hid) hen
    · rcases (hconditions e).1 he with rfl | ⟨he, -⟩
      · have := h.single d hd c hc hadapter hsource
        exact absurd (this ▸ hid) hdn
      · exact h.single d hd e he hadapter hsource
  · rw [hlinkRows, List.filter_append]
    rcases (hobs p).1 hp with hp | rfl
    · have hne : leadsTo p.observationId (conditionLink w o) = false := by
        have : o.observationId ≠ p.observationId := fun heq => hnew (List.mem_map.2 ⟨p, hp, heq.symm⟩)
        unfold leadsTo conditionLink
        simpa using this
      rw [h.linked p hp, List.filter_cons_of_neg (by simp [hne]), List.filter_nil, List.append_nil]
    · have hlead : leadsTo p.observationId (conditionLink w p) = true := by
        unfold leadsTo conditionLink
        simp
      rw [hunlinked, List.filter_cons_of_pos hlead, List.filter_nil, List.nil_append]
  · rcases (hobs p).1 hp with hp | rfl
    · obtain ⟨d, hd, hdp⟩ := h.owned p hp
      by_cases heq : d.conditionId = o.conditionId
      · exact ⟨c.after w o, (hconditions _).2 (Or.inl rfl), hafter.trans (heq.symm.trans hdp)⟩
      · exact ⟨d, (hconditions d).2 (Or.inr ⟨hd, heq⟩), hdp⟩
    · exact ⟨c.after w p, (hconditions _).2 (Or.inl rfl), hafter⟩
  · rw [hlinkRows, List.mem_append, List.mem_singleton] at hl
    rcases hl with hl | rfl
    · obtain ⟨p, hp, hpl⟩ := h.known l hl hkind
      exact ⟨p, (hobs p).2 (Or.inl hp), hpl⟩
    · exact ⟨o, (hobs o).2 (Or.inr rfl), rfl⟩
  · have hold : e ∈ t.events → ∃ p ∈ t'.observations.rows, p.conditionId = id ∧ p.sourceEventId = source := by
      intro he
      obtain ⟨p, hp, hpid, hps⟩ := h.told id source e he htells
      exact ⟨p, (hobs p).2 (Or.inl hp), hpid, hps⟩
    rw [hevents] at he
    cases event with
    | none => exact hold he
    | some event =>
      rw [emit_some, List.mem_append, List.mem_singleton] at he
      rcases he with he | rfl
      · exact hold he
      · obtain ⟨hcid, hsource, -⟩ := (materialEvent_tells _ _ _ _ _ _ _).1 htells
        exact ⟨o, (hobs o).2 (Or.inr rfl), hafter.symm.trans hcid, hsource⟩
  · rw [hevents]
    cases event with
    | none => exact h.once id source
    | some event =>
      rw [emit_some, List.countP_append, List.countP_singleton]
      by_cases htells : tellsOf id source (materialEvent t.events (c.after w o) o now event) = true
      · -- nothing was told of the observation before, since it was not observed
        obtain ⟨hcid, hsource, -⟩ := (materialEvent_tells _ _ _ _ _ _ _).1 htells
        have hzero : t.events.countP (tellsOf id source) = 0 := by
          refine List.countP_eq_zero.2 (fun e he htold => ?_)
          obtain ⟨p, hp, hpid, hps⟩ := h.told id source e he htold
          exact hunseen p hp (hpid.trans (hcid.symm.trans hafter)) (hps.trans hsource.symm)
        rw [hzero, if_pos htells]
      · rw [if_neg htells]
        exact h.once id source

theorem ConditionsKept.step {w : Wire} {t t' : ConditionTables} (h : ConditionsKept w t) (hc : ConditionChange w t t') :
    ConditionsKept w t' := by
  cases hc with
  | same heq => exact heq ▸ h
  | registered c hnew hfresh halone hrows hrest => exact h.registered hnew hfresh halone hrows hrest
  | observed c o event now hs _ hn hu ho hl hcond he => exact h.observed hs hn hu ho hl hcond he

theorem conditionsKept_run (w : Wire) (t : ConditionTables) (calls : List ConditionCall) :
    ConditionsKept w (conditionsAfter w t calls) := by
  unfold conditionsAfter
  induction calls using List.reverseRecOn with
  | nil => exact conditionsKept_new w t
  | append_singleton calls c ih =>
    rw [Trace.run_append]
    exact ih.step (performCondition_change w _ c)

/-! ## What a run keeps -/

theorem ConditionChange.terminal {w : Wire} {t t' : ConditionTables} (hchange : ConditionChange w t t')
    {c : ExternalCondition} (hc : c ∈ t.conditions.rows) (hover : c.state.isTerminal = true) :
    c ∈ t'.conditions.rows ∧ observedOf t' c.conditionId = observedOf t c.conditionId := by
  cases hchange with
  | same heq => exact ⟨heq ▸ hc, by rw [heq]⟩
  | registered d _ _ _ hrows hrest =>
    refine ⟨by rw [hrows]; exact List.mem_append_left _ hc, ?_⟩
    rw [hrest]
    rfl
  | observed d o event now hs hactive _ _ ho _ hcond _ =>
    have hne : c.conditionId ≠ o.conditionId := by
      intro heq
      have hcd : c = d := by
        have : some c = some d := by rw [← hs, ← heq, Table.get_of_mem hc]
        exact Option.some.inj this
      rw [hcd, hactive] at hover
      cases hover
    exact ⟨(hcond c).2 (Or.inr ⟨hc, hne⟩), observedOf_other (insertRow_ok_iff.1 ho).2 (Ne.symm hne)⟩

theorem over_run (w : Wire) : ∀ (calls : List ConditionCall) {t : ConditionTables} {c : ExternalCondition},
    c ∈ t.conditions.rows → c.state.isTerminal = true →
      c ∈ (run (conditionStep w) t calls).conditions.rows ∧
        observedOf (run (conditionStep w) t calls) c.conditionId = observedOf t c.conditionId
  | [], _, _, hc, _ => ⟨hc, rfl⟩
  | call :: calls, t, c, hc, hover => by
    obtain ⟨hc', hof⟩ := (performCondition_change w t call).terminal hc hover
    obtain ⟨hmem, hrun⟩ := over_run w calls hc' hover
    exact ⟨hmem, hrun.trans hof⟩

theorem ConditionChange.events {w : Wire} {t t' : ConditionTables} (h : ConditionChange w t t') : t.events <+: t'.events := by
  cases h with
  | same heq => rw [heq]
  | registered c _ _ _ _ hrest =>
    rw [hrest]
  | observed c o event now _ _ _ _ _ _ _ hevents =>
    rw [hevents]
    exact events_grow

theorem conditionEvents_run (w : Wire) : ∀ (calls : List ConditionCall) (t : ConditionTables),
    t.events <+: (run (conditionStep w) t calls).events
  | [], _ => List.prefix_rfl
  | c :: calls, t => (performCondition_change w t c).events.trans (conditionEvents_run w calls _)

section Emitted
variable {w : Wire} {t t' : ConditionTables} {id : String} {v : Nat} {o : ConditionObservation}
  {event : ConditionMaterialEvent} {now : Int}

theorem emitted_body {a : ExternalCondition} (hb : observationInnerBody w id v o (some event) now t = .ok (a, t'))
    (hobject : isObject event.payload = true) : 0 < t'.events.countP (tellsOf id o.sourceEventId) := by
  rw [List.countP_pos_iff]
  rcases observe_change hb with ⟨rfl, hid, hpresent⟩ | ⟨c, hid, hs, -, -, -, -, -, -, hevents⟩
  · unfold materialEventPresent at hpresent
    simp only [Option.all_some, beq_iff_eq] at hpresent
    obtain ⟨e, he, hmatch⟩ := List.countP_pos_iff.1 (hpresent ▸ Nat.zero_lt_one)
    refine ⟨e, he, ?_⟩
    simp only [Bool.and_eq_true] at hmatch
    obtain ⟨⟨⟨⟨-, htype⟩, hagg⟩, -⟩, hsource⟩ := hmatch
    unfold tellsOf
    rw [htype, ← hid, hagg, hsource]
    rfl
  · refine ⟨materialEvent t.events (c.after w o) o now event, ?_, ?_⟩
    · rw [hevents, emit_some]
      simp
    · rw [materialEvent_tells]
      exact ⟨(Table.key_of_get hs).trans hid, rfl, hobject⟩

/-- **An observation that was accepted with its event** has the event. -/
theorem emitted_told (h : (recordExternalConditionObservationAndEmit w id v o event now t).1.isOk = true) :
    0 < (recordExternalConditionObservationAndEmit w id v o event now t).2.events.countP (tellsOf id o.sourceEventId) := by
  unfold recordExternalConditionObservationAndEmit at h ⊢
  rcases transaction_cases _ t with ⟨e, -, hcall⟩ | ⟨a, t', hb, hcall⟩
  · rw [hcall] at h
    cases h
  · rw [hcall]
    obtain ⟨-, hb⟩ := bind_unit_ok.1 hb
    obtain ⟨hobject, hb⟩ := ensure_bind_ok.1 hb
    exact emitted_body hb hobject

end Emitted

theorem performCondition_error {w : Wire} {c : ConditionCall} {t : ConditionTables} {e : StoreError}
    (h : (performCondition w c t).1 = .error e) : conditionStep w t c = t := by
  unfold conditionStep
  cases c with
  | register c => exact transaction_error h
  | registerOrRead c => exact transaction_error h
  | record id v o now => exact transaction_error h
  | recordAndEmit id v o event now => exact transaction_error h

/-- **The ledger of external conditions**: after any calls every condition is as far as it was observed, one that is over
stays as it is through any calls that follow, an observation accepted with its event has it exactly once from then on, and
a call that fails changes nothing. -/
theorem condition_ledger (w : Wire) (t : ConditionTables) (calls : List ConditionCall) :
    ConditionLedger w (conditionsAfter w t calls) ∧
    (∀ later, ∀ c ∈ (conditionsAfter w t calls).conditions.rows, c.state.isTerminal = true →
      c ∈ (conditionsAfter w t (calls ++ later)).conditions.rows ∧
      observedOf (conditionsAfter w t (calls ++ later)) c.conditionId = observedOf (conditionsAfter w t calls) c.conditionId) ∧
    (∀ id v o event now later,
      (performCondition w (.recordAndEmit id v o event now) (conditionsAfter w t calls)).1.isOk = true →
      (conditionsAfter w t (calls ++ .recordAndEmit id v o event now :: later)).events.countP (tellsOf id o.sourceEventId) =
        1) ∧
    (∀ c e, (performCondition w c (conditionsAfter w t calls)).1 = .error e →
      conditionStep w (conditionsAfter w t calls) c = conditionsAfter w t calls) := by
  refine ⟨(conditionsKept_run w t calls).toConditionLedger, fun later c hc hover => ?_,
    fun id v o event now later hok => ?_, fun c e h => performCondition_error h⟩
  · unfold conditionsAfter at hc ⊢
    rw [Trace.run_append]
    exact over_run w later hc hover
  · have hpos : 0 < (conditionStep w (conditionsAfter w t calls) (.recordAndEmit id v o event now)).events.countP
        (tellsOf id o.sourceEventId) := emitted_told hok
    have hprefix := conditionEvents_run w later (conditionStep w (conditionsAfter w t calls) (.recordAndEmit id v o event now))
    have hcount := hprefix.sublist.countP_le (p := tellsOf id o.sourceEventId)
    have honce := (conditionsKept_run w t (calls ++ .recordAndEmit id v o event now :: later)).once id o.sourceEventId
    have hrun : conditionsAfter w t (calls ++ .recordAndEmit id v o event now :: later) =
        run (conditionStep w) (conditionStep w (conditionsAfter w t calls) (.recordAndEmit id v o event now)) later := by
      unfold conditionsAfter
      rw [Trace.run_append, Trace.run_cons]
    rw [hrun] at honce ⊢
    omega

end Control
end Bildr
