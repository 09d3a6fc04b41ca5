import Bildr.Improvement
import Bildr.Trace
import Mathlib.Data.List.Chain
/-!
# ImprovementLedger — what holds of the ledger along a run

Both calls either change nothing or append one revision with the next number and its event (`Wrote`).  The append path
checks that the revision follows the current one; an operator's outcome follows it when the current revision is
observed, at most internal and kept at most for governance (`outcomeOpen`).  Along runs whose outcomes meet this, every
aggregate is numbered, paired with its events and keeps its lifecycle (`improvement_ledger_sound`).
-/
namespace Bildr
namespace Improvement

open Trace

def aggregate (t : Tables) (kind : ImprovementRecordKind) (id : String) : List Revision :=
  t.revisions.rows.filter (ofAggregate kind id)

def eventsOf (t : Tables) (kind : ImprovementRecordKind) (id : String) : List Event :=
  t.events.rows.filter (fun e => decide (e.aggregateKind = kind) && e.aggregateId == id)

/-- The revisions of the aggregate are numbered from one, with one event of the same number each. -/
def Numbered (t : Tables) (kind : ImprovementRecordKind) (id : String) : Prop :=
  (aggregate t kind id).map Revision.revision = List.range' 1 (aggregate t kind id).length ∧
  (eventsOf t kind id).map (fun e => (e.sequence, e.revisionId)) =
    (aggregate t kind id).map (fun r => (r.revision, r.id))

structure Keeps (kind : ImprovementRecordKind) (r r' : Revision) : Prop where
  transition : improvementTransitionAllowed kind r.state r'.state = true
  sensitivity : sensitivityRank r.sensitivity ≤ sensitivityRank r'.sensitivity
  retention : retentionRank r.retentionClass ≤ retentionRank r'.retentionClass
  exportable : r'.exportAllowed = true → r.exportAllowed = true

theorem keeps_of_follows {kind : ImprovementRecordKind} {r r' : Revision}
    (h : follows kind r r'.state r'.sensitivity r'.retentionClass r'.exportAllowed = true) : Keeps kind r r' := by
  simp only [follows, Bool.and_eq_true, decide_eq_true_eq] at h
  obtain ⟨⟨⟨h1, h2⟩, h3⟩, h4⟩ := h
  refine ⟨h1, h2, h3, fun he => ?_⟩
  rw [he] at h4
  simpa using h4

/-! ## What a call writes -/

/-- The second ledger has the first one's rows, and more after them. -/
structure Extends (t t' : Tables) : Prop where
  referenced : t'.referenced = t.referenced
  revisions : t.revisions.rows <+: t'.revisions.rows
  events : t.events.rows <+: t'.events.rows
  actions : t.actions.rows <+: t'.actions.rows

theorem extends_refl (t : Tables) : Extends t t :=
  ⟨rfl, List.prefix_refl _, List.prefix_refl _, List.prefix_refl _⟩

theorem extends_trans {t u v : Tables} (h : Extends t u) (h' : Extends u v) : Extends t v :=
  ⟨h'.referenced.trans h.referenced, h.revisions.trans h'.revisions, h.events.trans h'.events,
    h.actions.trans h'.actions⟩

/-- One revision with the next number and its event were appended. -/
structure Wrote (w : Wire) (t t' : Tables) (r : Revision) (e : Event) : Prop where
  fresh : eventByKey t e.idempotencyKey = none
  revisions : t'.revisions.rows = t.revisions.rows ++ [r]
  events : t'.events.rows = t.events.rows ++ [e]
  number : r.revision = maxRevision t r.aggregateKind r.aggregateId + 1
  paired : e.aggregateKind = r.aggregateKind ∧ e.aggregateId = r.aggregateId ∧ e.sequence = r.revision ∧
    e.revisionId = r.id
  readable : readable w r = true
  referenced : t'.referenced = t.referenced
  actions : t.actions.rows <+: t'.actions.rows

theorem Wrote.extends {w : Wire} {t t' : Tables} {r : Revision} {e : Event} (h : Wrote w t t' r e) : Extends t t' :=
  ⟨h.referenced, h.revisions ▸ List.prefix_append _ _, h.events ▸ List.prefix_append _ _, h.actions⟩

theorem insertRevision_ok {t t' : Tables} {r : Revision} (h : insertRevision t r = .ok t') :
    ∃ u, t' = { t with revisions := u } ∧ u.rows = t.revisions.rows ++ [r] := by
  unfold insertRevision at h
  obtain ⟨_, -, h⟩ := bind_ok h
  obtain ⟨u, hu, h⟩ := bind_ok h
  cases h
  exact ⟨u, rfl, (Table.insert_some (insertRow_ok hu)).2⟩

theorem insertEvent_ok {t t' : Tables} {e : Event} (h : insertEvent t e = .ok t') :
    ∃ u, t' = { t with events := u } ∧ u.rows = t.events.rows ++ [e] := by
  unfold insertEvent at h
  obtain ⟨_, -, h⟩ := bind_ok h
  obtain ⟨u, hu, h⟩ := bind_ok h
  cases h
  exact ⟨u, rfl, (Table.insert_some (insertRow_ok hu)).2⟩

theorem readImprovementRevision_ok {w : Wire} {t : Tables} {id : String} {r : Revision}
    (h : readImprovementRevision w t id = .ok r) : t.revisions.get id = some r ∧ readable w r = true := by
  unfold readImprovementRevision at h
  obtain ⟨q, hq, h⟩ := bind_ok h
  obtain ⟨_, hr, h⟩ := bind_ok h
  cases h
  exact ⟨okOr_ok hq, ensure_ok hr⟩

theorem appendNew_ok {w : Wire} {i : NewImprovementRevision} {now : Int} {t t' : Tables} {ans : Revision × Event}
    (hkey : eventByKey t i.idempotencyKey = none) (h : appendNew w i now t = .ok (ans, t')) :
    let next := maxRevision t i.aggregateKind i.aggregateId + 1
    ans = (i.row next now, i.event w next now) ∧ Wrote w t t' (i.row next now) (i.event w next now) ∧
      ∀ prior, currentRevision t i.aggregateKind i.aggregateId = some prior →
        Keeps i.aggregateKind prior (i.row next now) := by
  intro next
  unfold appendNew at h
  obtain ⟨_, hfollows, h⟩ := bind_ok h
  obtain ⟨_, -, h⟩ := bind_ok h
  obtain ⟨_, -, h⟩ := bind_ok h
  obtain ⟨t₁, h₁, h⟩ := bind_ok h
  obtain ⟨t₂, h₂, h⟩ := bind_ok h
  obtain ⟨r, hr, h⟩ := bind_ok h
  obtain ⟨e, he, h⟩ := bind_ok h
  cases h
  obtain ⟨u, rfl, hu⟩ := insertRevision_ok h₁
  obtain ⟨v, rfl, hv⟩ := insertEvent_ok h₂
  obtain ⟨hget, hread⟩ := readImprovementRevision_ok hr
  -- the rows read back are the ones written
  have hrow : u.get i.id = some (i.row next now) := Table.get_of_mem (t := u) (r := i.row next now) (by rw [hu]; simp [next])
  have hev : v.get i.eventId = some (i.event w next now) :=
    Table.get_of_mem (t := v) (r := i.event w next now) (by rw [hv]; simp [next])
  have hr' : r = i.row next now := Option.some.inj (hget.symm.trans hrow)
  have he' : e = i.event w next now := Option.some.inj ((okOr_ok he).symm.trans hev)
  refine ⟨by rw [hr', he'], ⟨hkey, hu, hv, rfl, ⟨rfl, rfl, rfl, rfl⟩, hr' ▸ hread, rfl, List.prefix_refl _⟩, ?_⟩
  intro prior hprior
  have := ensure_ok hfollows
  rw [hprior, Option.all_some] at this
  exact keeps_of_follows this

/-- **What an append call does**: nothing, or it appends the revision of its input, which follows the current one. -/
theorem append_cases (w : Wire) (i : NewImprovementRevision) (now : Int) (t : Tables) :
    (appendImprovementRevision w i now t).2 = t ∨
    eventByKey t i.idempotencyKey = none ∧
      let next := maxRevision t i.aggregateKind i.aggregateId + 1
      Wrote w t (appendImprovementRevision w i now t).2 (i.row next now) (i.event w next now) ∧
        ∀ prior, currentRevision t i.aggregateKind i.aggregateId = some prior →
          Keeps i.aggregateKind prior (i.row next now) := by
  unfold appendImprovementRevision
  rcases transaction_cases _ t with ⟨e, -, ht⟩ | ⟨ans, t', hb, ht⟩
  · rw [ht]; exact Or.inl rfl
  · rw [ht]
    obtain ⟨_, -, hb⟩ := bind_ok hb
    cases hk : eventByKey t i.idempotencyKey with
    | some e =>
      rw [hk] at hb
      obtain ⟨a, -, hb⟩ := bind_ok hb
      cases hb
      exact Or.inl rfl
    | none =>
      rw [hk] at hb
      obtain ⟨-, hwrote, hkeeps⟩ := appendNew_ok hk hb
      exact Or.inr ⟨rfl, hwrote, hkeeps⟩

theorem outcomeVector_ok {w : Wire} {t : Tables} {run : String} {v : List OutcomeVectorItem}
    (h : outcomeVector w t run = .ok v) {r : Revision} (hr : r ∈ outcomeRows t run) : readable w r = true := by
  unfold outcomeVector at h
  obtain ⟨rows, hrows, -⟩ := bind_ok h
  obtain ⟨q, hq⟩ := mapM_ok hrows hr
  obtain ⟨_, hread, -⟩ := bind_ok hq
  exact ensure_ok hread

/-- **What a new outcome writes**: the next revision of its aggregate, its event and the operator's action. -/
theorem recordNew_ok {w : Wire} {i : NewOperatorOutcome} {now : Int} {t t' : Tables} {ans : OutcomeRevisionReceipt}
    (hkey : eventByKey t i.idempotencyKey = none) (h : recordNew w i now t = .ok (ans, t')) :
    let next := maxRevision t .outcome (stableOutcomeId w i) + 1
    let o := i.payload w (t.actionSequence + 1) now
    (ans.outcomeId, ans.revisionId, ans.revision) = (stableOutcomeId w i, outcomeRevisionId w i, next) ∧
      Wrote w t t' (i.row w o next now) (i.event w next now) ∧
      (⟨t.actionSequence + 1, i.runId, i.actor, stableOutcomeId w i, now, w.actionText i.action,
        w.sha256 (w.actionText i.action)⟩ : HumanAction) ∈ t'.actions.rows := by
  intro next o
  unfold recordNew at h
  obtain ⟨_, -, h⟩ := bind_ok h
  obtain ⟨actions, ha, h⟩ := bind_ok h
  obtain ⟨_, -, h⟩ := bind_ok h
  obtain ⟨t₁, h₁, h⟩ := bind_ok h
  obtain ⟨t₂, h₂, h⟩ := bind_ok h
  obtain ⟨v, hv, h⟩ := bind_ok h
  cases h
  obtain ⟨u, rfl, hu⟩ := insertRevision_ok h₁
  obtain ⟨x, rfl, hx⟩ := insertEvent_ok h₂
  have hacts := (Table.insert_some (insertRow_ok ha)).2
  -- the row just written is one of the run's outcomes, so the vector has read it
  have hread : readable w (i.row w o next now) = true := by
    refine outcomeVector_ok hv ?_
    refine List.mem_flatMap.2 ⟨stableOutcomeId w i, ?_, ?_⟩
    · refine SortedSet.mem_ofList.2 (List.mem_map.2 ⟨i.row w o next now, ?_, rfl⟩)
      simp only [List.mem_filter, hu, List.mem_append]
      exact ⟨Or.inr List.mem_cons_self, by simp [NewOperatorOutcome.row, NewOperatorOutcome.payload, o]⟩
    · simp only [List.mem_filter, hu, List.mem_append]
      exact ⟨⟨Or.inr List.mem_cons_self, by simp [NewOperatorOutcome.row, NewOperatorOutcome.payload, o]⟩,
        by simp [NewOperatorOutcome.row]⟩
  refine ⟨rfl, ⟨hkey, hu, hx, rfl, ⟨rfl, rfl, rfl, rfl⟩, hread, rfl, ?_⟩, ?_⟩
  · rw [hacts]
    exact List.prefix_append _ _
  · rw [hacts]
    exact List.mem_append_right _ List.mem_cons_self

/-- **What an outcome call does**: nothing, or it appends the revision of its input, whose targets were checked. -/
theorem record_cases (w : Wire) (i : NewOperatorOutcome) (now : Int) (t : Tables) :
    (recordOperatorOutcome w i now t).2 = t ∨
    eventByKey t i.idempotencyKey = none ∧ validateOutcomeSupersedes t (stableOutcomeId w i) i.supersedes = .ok () ∧
      let next := maxRevision t .outcome (stableOutcomeId w i) + 1
      Wrote w t (recordOperatorOutcome w i now t).2 (i.row w (i.payload w (t.actionSequence + 1) now) next now)
        (i.event w next now) := by
  unfold recordOperatorOutcome
  rcases transaction_cases _ t with ⟨e, -, ht⟩ | ⟨ans, t', hb, ht⟩
  · rw [ht]; exact Or.inl rfl
  · rw [ht]
    obtain ⟨_, -, hb⟩ := bind_ok hb
    cases hk : eventByKey t i.idempotencyKey with
    | some e =>
      rw [hk] at hb
      obtain ⟨a, -, hb⟩ := bind_ok hb
      cases hb
      exact Or.inl rfl
    | none =>
      rw [hk] at hb
      obtain ⟨-, hwrote, -⟩ := recordNew_ok hk hb
      obtain ⟨_, hsupersedes, -⟩ := bind_ok hb
      exact Or.inr ⟨rfl, hsupersedes, hwrote⟩

/-! ## The invariant -/

structure LedgerInv (w : Wire) (t : Tables) : Prop where
  paired : t.events.rows.map (fun e => (e.aggregateKind, e.aggregateId, e.sequence, e.revisionId)) =
    t.revisions.rows.map (fun r => (r.aggregateKind, r.aggregateId, r.revision, r.id))
  numbered : ∀ kind id, (aggregate t kind id).map Revision.revision = List.range' 1 (aggregate t kind id).length
  readable : ∀ r ∈ t.revisions.rows, readable w r = true

theorem LedgerInv.toNumbered {w : Wire} {t : Tables} (h : LedgerInv w t) (kind : ImprovementRecordKind) (id : String) :
    Numbered t kind id := by
  refine ⟨h.numbered kind id, ?_⟩
  have hf := congrArg (fun l => (l.filter (fun q => decide (q.1 = kind) && q.2.1 == id)).map (fun q => q.2.2)) h.paired
  simp only [List.filter_map, List.map_map] at hf
  exact hf

theorem LedgerInv.maxRevision_eq {w : Wire} {t : Tables} (h : LedgerInv w t) (kind : ImprovementRecordKind)
    (id : String) : maxRevision t kind id = (aggregate t kind id).length :=
  Table.maxOf_numbered Revision.revision _ (h.numbered kind id)

theorem LedgerInv.currentRevision_eq {w : Wire} {t : Tables} (h : LedgerInv w t) (kind : ImprovementRecordKind)
    (id : String) : currentRevision t kind id = (aggregate t kind id).getLast? := by
  unfold currentRevision
  rw [h.maxRevision_eq, ← Table.find_numbered Revision.revision _ (h.numbered kind id), aggregate, List.find?_filter]
  congr 1
  funext r
  rw [Bool.decide_and, Bool.decide_eq_true, Bool.decide_eq_true]

theorem Wrote.aggregate_eq {w : Wire} {t t' : Tables} {r : Revision} {e : Event} (h : Wrote w t t' r e)
    (kind : ImprovementRecordKind) (id : String) :
    aggregate t' kind id = aggregate t kind id ++ if ofAggregate kind id r then [r] else [] := by
  unfold aggregate
  rw [h.revisions, List.filter_append, List.filter_singleton, cond_eq_ite]

theorem ofAggregate_iff {kind : ImprovementRecordKind} {id : String} {r : Revision} :
    ofAggregate kind id r = true ↔ r.aggregateKind = kind ∧ r.aggregateId = id := by
  simp [ofAggregate]

theorem Wrote.keeps_inv {w : Wire} {t t' : Tables} {r : Revision} {e : Event} (h : Wrote w t t' r e)
    (hi : LedgerInv w t) : LedgerInv w t' := by
  obtain ⟨p1, p2, p3, p4⟩ := h.paired
  refine ⟨?_, fun kind id => ?_, fun q hq => ?_⟩
  · rw [h.events, h.revisions, List.map_append, List.map_append, hi.paired]
    simp only [List.map_cons, List.map_nil, p1, p2, p3, p4]
  · rw [h.aggregate_eq]
    split
    · rename_i hr
      obtain ⟨rfl, rfl⟩ := ofAggregate_iff.1 hr
      exact Table.numbered_concat Revision.revision (hi.numbered _ _) h.number
    · rw [List.append_nil]
      exact hi.numbered kind id
  · rw [h.revisions] at hq
    rcases List.mem_append.1 hq with hq | hq
    · exact hi.readable q hq
    · obtain rfl := List.mem_singleton.1 hq
      exact h.readable

/-- Consecutive revisions of every aggregate keep the lifecycle and the classification. -/
def Chained (t : Tables) : Prop := ∀ kind id, (aggregate t kind id).IsChain (Keeps kind)

theorem Wrote.keeps_chained {w : Wire} {t t' : Tables} {r : Revision} {e : Event} (h : Wrote w t t' r e)
    (hi : LedgerInv w t) (hc : Chained t)
    (hk : ∀ prior, currentRevision t r.aggregateKind r.aggregateId = some prior → Keeps r.aggregateKind prior r) :
    Chained t' := by
  intro kind id
  rw [h.aggregate_eq]
  split
  · rename_i hr
    obtain ⟨rfl, rfl⟩ := ofAggregate_iff.1 hr
    refine List.isChain_append.2 ⟨hc _ _, List.isChain_singleton _, fun q hq p hp => ?_⟩
    obtain rfl : r = p := by simpa using hp
    rw [hi.currentRevision_eq] at hk
    exact hk q hq
  · rw [List.append_nil]
    exact hc kind id

/-! ## Repeated keys -/

theorem eventByKey_extends {t t' : Tables} (h : Extends t t') {key : String} {e : Event}
    (he : eventByKey t key = some e) : eventByKey t' key = some e := by
  obtain ⟨l, hl⟩ := h.events
  unfold eventByKey at he ⊢
  rw [← hl, List.find?_append, he, Option.some_or]

theorem Wrote.eventByKey_eq {w : Wire} {t t' : Tables} {r : Revision} {e : Event} (h : Wrote w t t' r e) :
    eventByKey t' e.idempotencyKey = some e := by
  have hf := h.fresh
  unfold eventByKey at hf ⊢
  rw [h.events, List.find?_append, hf, Option.none_or]
  simp

theorem Wrote.get_revision {w : Wire} {t t' : Tables} {r : Revision} {e : Event} (h : Wrote w t t' r e) :
    t'.revisions.get r.id = some r :=
  Table.get_of_mem (by rw [h.revisions]; exact List.mem_append_right _ List.mem_cons_self)

theorem Wrote.get_event {w : Wire} {t t' : Tables} {r : Revision} {e : Event} (h : Wrote w t t' r e) :
    t'.events.get e.id = some e :=
  Table.get_of_mem (by rw [h.events]; exact List.mem_append_right _ List.mem_cons_self)

theorem readImprovementRevision_eq {w : Wire} {t : Tables} {id : String} {r : Revision}
    (hget : t.revisions.get id = some r) (hr : readable w r = true) : readImprovementRevision w t id = .ok r := by
  simp only [readImprovementRevision, hget, queryRow, okOr, ok_bind, hr, ensure_true, pure_ok]

theorem readImprovementRevision_extends {w : Wire} {t t' : Tables} (h : Extends t t') {id : String} {r : Revision}
    (hr : readImprovementRevision w t id = .ok r) : readImprovementRevision w t' id = .ok r := by
  obtain ⟨hget, hread⟩ := readImprovementRevision_ok hr
  exact readImprovementRevision_eq (Table.get_extends h.revisions hget) hread

theorem replayRevision_extends {w : Wire} {t t' : Tables} (h : Extends t t') {i : NewImprovementRevision} {e : Event}
    {ans : Revision × Event} (hr : replayRevision w t i e = .ok ans) : replayRevision w t' i e = .ok ans := by
  unfold replayRevision at hr ⊢
  obtain ⟨r, hread, hr⟩ := bind_ok hr
  obtain ⟨_, hsame, hr⟩ := bind_ok hr
  obtain ⟨ev, hev, hr⟩ := bind_ok hr
  have hev' : readImprovementEvent t' e.id = .ok ev := by
    unfold readImprovementEvent
    rw [Table.get_extends h.events (okOr_ok hev)]
    rfl
  rw [readImprovementRevision_extends h hread, ok_bind, hsame, ok_bind, hev', ok_bind]
  exact hr

theorem replayRevision_row {w : Wire} {t t' : Tables} {i : NewImprovementRevision} {next : Nat} {now : Int}
    (h : Wrote w t t' (i.row next now) (i.event w next now)) :
    replayRevision w t' i (i.event w next now) = .ok (i.row next now, i.event w next now) := by
  have hr : readImprovementRevision w t' (i.event w next now).revisionId = .ok (i.row next now) :=
    readImprovementRevision_eq h.get_revision h.readable
  have he : readImprovementEvent t' (i.event w next now).id = .ok (i.event w next now) := by
    unfold readImprovementEvent
    rw [h.get_event]
    rfl
  unfold replayRevision
  rw [hr, ok_bind, he]
  simp [NewImprovementRevision.row, NewImprovementRevision.event]

theorem append_replay {w : Wire} {i : NewImprovementRevision} {t : Tables} {e : Event} {ans : Revision × Event}
    (hv : validateImprovementInput w i = .ok ()) (hk : eventByKey t i.idempotencyKey = some e)
    (hr : replayRevision w t i e = .ok ans) (now : Int) : appendImprovementRevision w i now t = (.ok ans, t) := by
  simp only [appendImprovementRevision, transaction, hv, hk, hr, ok_bind, pure_ok]

/-- **An append repeated later returns the first answer and changes nothing.** -/
theorem append_repeated {w : Wire} {i : NewImprovementRevision} {now : Int} {t t' : Tables} {ans : Revision × Event}
    (h : (appendImprovementRevision w i now t).1 = .ok ans) (hx : Extends (appendImprovementRevision w i now t).2 t')
    (later : Int) : appendImprovementRevision w i later t' = (.ok ans, t') := by
  unfold appendImprovementRevision at h hx
  rcases transaction_cases _ t with ⟨e, -, ht⟩ | ⟨a, u, hb, ht⟩
  · rw [ht] at h; cases h
  · rw [ht] at h hx
    obtain rfl : a = ans := by simpa using h
    obtain ⟨_, hv, hb⟩ := bind_ok hb
    cases hk : eventByKey t i.idempotencyKey with
    | some e =>
      rw [hk] at hb
      obtain ⟨_, hr, hb⟩ := bind_ok hb
      cases hb
      exact append_replay hv (eventByKey_extends hx hk) (replayRevision_extends hx hr) later
    | none =>
      rw [hk] at hb
      obtain ⟨rfl, hwrote, -⟩ := appendNew_ok hk hb
      exact append_replay hv (eventByKey_extends hx hwrote.eventByKey_eq)
        (replayRevision_extends hx (replayRevision_row hwrote)) later

theorem readable_outcome {w : Wire} {r : Revision} (h : readable w r = true) (hk : r.aggregateKind = .outcome) :
    ∃ o, r.payload = .outcome o := by
  simp only [readable, Bool.and_eq_true, decide_eq_true_eq] at h
  obtain ⟨⟨⟨⟨⟨⟨hkind, -⟩, -⟩, -⟩, -⟩, -⟩, hp⟩ := h
  have hs : r.schema = .outcomeV1 := by
    rw [hk] at hkind
    cases hs : r.schema <;> rw [hs] at hkind <;> first | rfl | cases hkind
  cases hpay : r.payload with
  | outcome o => exact ⟨o, rfl⟩
  | other v => rw [hs, hpay] at hp; cases hp

theorem outcomeVector_isOk {w : Wire} {t : Tables} (h : ∀ r ∈ t.revisions.rows, readable w r = true) (run : String) :
    ∃ v, outcomeVector w t run = .ok v := by
  have hrows : ∀ r ∈ outcomeRows t run, ∃ q : Revision × OutcomeWireV1,
      (do ensure (readable w r) (StoreError.sqlite .fromSqlConversionFailure)
          let o ← parseOutcome r.payload
          return (r, o)) = .ok q := by
    intro r hr
    obtain ⟨_, -, hr⟩ := List.mem_flatMap.1 hr
    obtain ⟨hmem, hkind⟩ := List.mem_filter.1 (List.mem_filter.1 hr).1
    have hread := h r hmem
    simp only [Bool.and_eq_true, decide_eq_true_eq] at hkind
    obtain ⟨o, ho⟩ := readable_outcome hread hkind.1
    exact ⟨(r, o), by rw [hread, ho]; rfl⟩
  obtain ⟨rows, hm⟩ := mapM_isOk hrows
  unfold outcomeVector
  rw [hm]
  exact ⟨_, rfl⟩

def SameRevision (a b : OutcomeRevisionReceipt) : Prop :=
  a.outcomeId = b.outcomeId ∧ a.revisionId = b.revisionId ∧ a.revision = b.revision

theorem replayOutcome_extends {w : Wire} {t t' : Tables} (h : Extends t t')
    (hread : ∀ r ∈ t'.revisions.rows, readable w r = true) {i : NewOperatorOutcome} {e : Event}
    {ans : OutcomeRevisionReceipt} (hr : replayOutcome w t i e = .ok ans) :
    ∃ ans', replayOutcome w t' i e = .ok ans' ∧ SameRevision ans ans' := by
  unfold replayOutcome at hr
  obtain ⟨r, hget, hr⟩ := bind_ok hr
  obtain ⟨o, ho, hr⟩ := bind_ok hr
  obtain ⟨_, hsame, hr⟩ := bind_ok hr
  obtain ⟨v, -, hr⟩ := bind_ok hr
  cases hr
  have hg := okOr_ok hget
  rw [Option.filter_eq_some_iff] at hg
  obtain ⟨v', hv'⟩ := outcomeVector_isOk hread i.runId
  have hsame' := ensure_ok hsame
  -- the action found before is still there
  have hact : ∀ {p : HumanAction → Bool}, t.actions.rows.any p = true → t'.actions.rows.any p = true := by
    intro p hp
    obtain ⟨a, ha, hpa⟩ := List.any_eq_true.1 hp
    exact List.any_eq_true.2 ⟨a, h.actions.subset ha, hpa⟩
  simp only [Bool.and_eq_true] at hsame'
  obtain ⟨⟨⟨h1, h2⟩, h3⟩, h4⟩ := hsame'
  refine ⟨⟨stableOutcomeId w i, e.revisionId, r.revision, v'⟩, ?_, rfl, rfl, rfl⟩
  unfold replayOutcome
  rw [Table.get_extends h.revisions hg.1]
  simp only [Option.filter, hg.2, if_true, queryRow, okOr, ok_bind, ho, h1, h2, hact h3, h4, Bool.and_self,
    ensure_true, hv', pure_ok]

theorem replayOutcome_row {w : Wire} {t t' : Tables} {i : NewOperatorOutcome} {next actionId : Nat} {now : Int}
    (h : Wrote w t t' (i.row w (i.payload w actionId now) next now) (i.event w next now))
    (ha : (⟨actionId, i.runId, i.actor, stableOutcomeId w i, now, w.actionText i.action,
      w.sha256 (w.actionText i.action)⟩ : HumanAction) ∈ t'.actions.rows)
    (hread : ∀ r ∈ t'.revisions.rows, readable w r = true) :
    ∃ v, replayOutcome w t' i (i.event w next now) = .ok ⟨stableOutcomeId w i, outcomeRevisionId w i, next, v⟩ := by
  obtain ⟨v, hv⟩ := outcomeVector_isOk hread i.runId
  have hget : t'.revisions.get (outcomeRevisionId w i) = some (i.row w (i.payload w actionId now) next now) :=
    h.get_revision
  have hact : t'.actions.rows.any (fun a => toString a.id == toString actionId && a.runId == i.runId &&
      a.actor == i.actor && a.targetId == stableOutcomeId w i && a.payload == w.actionText i.action &&
      a.payloadSha256 == w.sha256 (w.actionText i.action)) = true :=
    List.any_eq_true.2 ⟨_, ha, by simp⟩
  have hmatch : outcomeMatchesInput (i.payload w actionId now) i (stableOutcomeId w i) = true := by
    simp [outcomeMatchesInput, NewOperatorOutcome.payload]
  refine ⟨v, ?_⟩
  simp only [replayOutcome, NewOperatorOutcome.event, hget, NewOperatorOutcome.row, Option.filter, decide_true, if_true,
    queryRow, okOr, parseOutcome, ok_bind, beq_self_eq_true, Bool.and_self, Bool.true_and, hmatch, Bool.and_true, hv]
  rw [show (i.payload w actionId now).source.recordId = toString actionId from rfl, hact]
  rfl

theorem record_replay {w : Wire} {i : NewOperatorOutcome} {t : Tables} {e : Event} {ans : OutcomeRevisionReceipt}
    (hv : checkOperatorOutcome t.referenced i = .ok ()) (hk : eventByKey t i.idempotencyKey = some e)
    (hr : replayOutcome w t i e = .ok ans) (now : Int) : recordOperatorOutcome w i now t = (.ok ans, t) := by
  simp only [recordOperatorOutcome, transaction, hv, hk, hr, ok_bind, pure_ok]

/-- **An outcome recorded again later names the first revision and changes nothing.** -/
theorem record_repeated {w : Wire} {i : NewOperatorOutcome} {now : Int} {t t' : Tables} {ans : OutcomeRevisionReceipt}
    (hi : LedgerInv w t) (hi' : LedgerInv w t') (h : (recordOperatorOutcome w i now t).1 = .ok ans)
    (hx : Extends (recordOperatorOutcome w i now t).2 t') (later : Int) :
    ∃ ans', recordOperatorOutcome w i later t' = (.ok ans', t') ∧ SameRevision ans ans' := by
  unfold recordOperatorOutcome at h hx
  rcases transaction_cases _ t with ⟨e, -, ht⟩ | ⟨a, u, hb, ht⟩
  · rw [ht] at h; cases h
  · rw [ht] at h hx
    obtain rfl : a = ans := by simpa using h
    obtain ⟨_, hv, hb⟩ := bind_ok hb
    cases hk : eventByKey t i.idempotencyKey with
    | some e =>
      rw [hk] at hb
      obtain ⟨_, hr, hb⟩ := bind_ok hb
      cases hb
      obtain ⟨ans', hr', hsame⟩ := replayOutcome_extends hx hi'.readable hr
      exact ⟨ans', record_replay (hx.referenced ▸ hv) (eventByKey_extends hx hk) hr' later, hsame⟩
    | none =>
      rw [hk] at hb
      obtain ⟨hans, hwrote, hact⟩ := recordNew_ok hk hb
      obtain ⟨v, hr⟩ := replayOutcome_row hwrote hact (hwrote.keeps_inv hi).readable
      obtain ⟨ans', hr', hsame⟩ := replayOutcome_extends hx hi'.readable hr
      have hv' : checkOperatorOutcome t'.referenced i = .ok () := by
        rw [hx.referenced, hwrote.referenced]
        exact hv
      refine ⟨ans', record_replay hv' (eventByKey_extends hx hwrote.eventByKey_eq) hr' later, ?_⟩
      simp only [Prod.mk.injEq] at hans
      obtain ⟨h1, h2, h3⟩ := hans
      obtain ⟨g1, g2, g3⟩ := hsame
      exact ⟨h1.trans g1, h2.trans g2, h3.trans g3⟩

/-! ## Runs -/

inductive Op
  | appendRevision (i : NewImprovementRevision) (now : Int)
  | recordOutcome (i : NewOperatorOutcome) (now : Int)

def step (w : Wire) (t : Tables) : Op → Tables
  | .appendRevision i now => (appendImprovementRevision w i now t).2
  | .recordOutcome i now  => (recordOperatorOutcome w i now t).2

def emptyLedger (referenced : Referenced) : Tables := ⟨referenced, ∅, ∅, ∅, 0⟩

/-- The current revision of the aggregate, if there is one, is observed, at most internal, and kept at most for
governance. -/
def outcomeOpen (w : Wire) (t : Tables) (i : NewOperatorOutcome) : Bool :=
  (currentRevision t .outcome (stableOutcomeId w i)).all (fun prior => prior.state == .observed &&
    decide (sensitivityRank prior.sensitivity ≤ sensitivityRank .internal) &&
    decide (retentionRank prior.retentionClass ≤ retentionRank .governance))

def OpensOutcome (w : Wire) (t : Tables) : Op → Prop
  | .appendRevision _ _ => True
  | .recordOutcome i _  => eventByKey t i.idempotencyKey = none → outcomeOpen w t i = true

instance (w : Wire) (t : Tables) : ∀ o, Decidable (OpensOutcome w t o)
  | .appendRevision _ _ => isTrue trivial
  | .recordOutcome i _  => inferInstanceAs (Decidable (eventByKey t i.idempotencyKey = none → outcomeOpen w t i = true))

theorem step_wrote (w : Wire) (t : Tables) (o : Op) :
    step w t o = t ∨ ∃ r e, Wrote w t (step w t o) r e ∧ (OpensOutcome w t o →
      ∀ prior, currentRevision t r.aggregateKind r.aggregateId = some prior → Keeps r.aggregateKind prior r) := by
  cases o with
  | appendRevision i now =>
    rcases append_cases w i now t with h | ⟨-, hw, hk⟩
    · exact Or.inl h
    · exact Or.inr ⟨_, _, hw, fun _ => hk⟩
  | recordOutcome i now =>
    rcases record_cases w i now t with h | ⟨hkey, -, hw⟩
    · exact Or.inl h
    · refine Or.inr ⟨_, _, hw, fun hopen prior hprior => keeps_of_follows ?_⟩
      have hall := hopen hkey
      have hcur : currentRevision t .outcome (stableOutcomeId w i) = some prior := hprior
      rw [outcomeOpen, hcur, Option.all_some] at hall
      simp only [Bool.and_eq_true, beq_iff_eq, decide_eq_true_eq] at hall
      obtain ⟨⟨hs, h2⟩, h3⟩ := hall
      have hmove : improvementTransitionAllowed .outcome .observed .observed = true := by decide
      simp only [follows, NewOperatorOutcome.row, hs, hmove, h2, h3, decide_true, Bool.and_self, Bool.not_false,
        Bool.or_true]

theorem step_extends (w : Wire) (t : Tables) (o : Op) : Extends t (step w t o) := by
  rcases step_wrote w t o with h | ⟨r, e, hw, -⟩
  · rw [h]
    exact extends_refl t
  · exact hw.extends

theorem run_extends (w : Wire) : ∀ (ops : List Op) (t : Tables), Extends t (run (step w) t ops)
  | [], t => extends_refl t
  | o :: ops, t => extends_trans (step_extends w t o) (run_extends w ops (step w t o))

theorem step_inv (w : Wire) (t : Tables) (o : Op) (h : LedgerInv w t) : LedgerInv w (step w t o) := by
  rcases step_wrote w t o with ht | ⟨r, e, hw, -⟩
  · rw [ht]
    exact h
  · exact hw.keeps_inv h

theorem run_inv (w : Wire) : ∀ (ops : List Op) {t : Tables}, LedgerInv w t → LedgerInv w (run (step w) t ops)
  | [], _, h => h
  | o :: ops, t, h => run_inv w ops (step_inv w t o h)

theorem emptyLedger_inv (w : Wire) (referenced : Referenced) : LedgerInv w (emptyLedger referenced) :=
  ⟨rfl, fun _ _ => rfl, fun _ hr => absurd hr List.not_mem_nil⟩

theorem step_chained (w : Wire) (t : Tables) (o : Op) (h : LedgerInv w t ∧ Chained t) (hopen : OpensOutcome w t o) :
    LedgerInv w (step w t o) ∧ Chained (step w t o) := by
  refine ⟨step_inv w t o h.1, ?_⟩
  rcases step_wrote w t o with ht | ⟨r, e, hw, hk⟩
  · rw [ht]
    exact h.2
  · exact hw.keeps_chained h.1 h.2 (hk hopen)

/-- **The ledger's invariant.**  Along runs whose new outcomes go to open aggregates every aggregate is numbered, has
its events and keeps its lifecycle and classification; repeated keys return the first answer whatever came between, and
failing calls change nothing. -/
theorem improvement_ledger_sound (w : Wire) (referenced : Referenced) (ops : List Op)
    (h : Along (step w) (OpensOutcome w) (emptyLedger referenced) ops) :
    let t := run (step w) (emptyLedger referenced) ops
    (∀ kind id, Numbered t kind id ∧ (aggregate t kind id).IsChain (Keeps kind)) ∧
    (∀ i now ans, (appendImprovementRevision w i now t).1 = .ok ans → ∀ between later,
      let t' := run (step w) (appendImprovementRevision w i now t).2 between
      appendImprovementRevision w i later t' = (.ok ans, t')) ∧
    (∀ i now ans, (recordOperatorOutcome w i now t).1 = .ok ans → ∀ between later,
      let t' := run (step w) (recordOperatorOutcome w i now t).2 between
      ∃ ans', recordOperatorOutcome w i later t' = (.ok ans', t') ∧ SameRevision ans ans') ∧
    (∀ i now e, (appendImprovementRevision w i now t).1 = .error e → (appendImprovementRevision w i now t).2 = t) ∧
    (∀ i now e, (recordOperatorOutcome w i now t).1 = .error e → (recordOperatorOutcome w i now t).2 = t) := by
  intro t
  have hempty : Chained (emptyLedger referenced) := fun _ _ => List.isChain_nil
  have ht : LedgerInv w t ∧ Chained t :=
    invariant_of_step (fun s => LedgerInv w s ∧ Chained s) (step_chained w) ⟨emptyLedger_inv w referenced, hempty⟩ h
  refine ⟨fun kind id => ⟨ht.1.toNumbered kind id, ht.2 kind id⟩, ?_, ?_, fun i now e => transaction_error,
    fun i now e => transaction_error⟩
  · intro i now ans hans between later
    exact append_repeated hans (run_extends w between _) later
  · intro i now ans hans between later
    have hnext : LedgerInv w (recordOperatorOutcome w i now t).2 := step_inv w t (.recordOutcome i now) ht.1
    exact record_repeated ht.1 (run_inv w between hnext) hans (run_extends w between _) later

/-! ## A superseded outcome -/

def sampleAction : String :=
  "\x7b\"classification\":\"positive\",\"code\":\"accepted_without_correction\"," ++
    "\"dimension\":\"operator_acceptance\",\"note_redacted\":false,\"reason_code\":null\x7d"

def sampleOutcomeId : String := "936473c0b9d6b018feaef9c54b8583844ade0edd103b683bc8bd4f54f17971ec"

/-- The stored text of the outcomes below, which differ in their source and their time. -/
def sampleText (record at_ : String) : String :=
  "\x7b\"classification\":\"positive\",\"code\":\"accepted_without_correction\"," ++
    "\"confidence\":\"operator_asserted\",\"correction_artifact_id\":null,\"dimension\":\"operator_acceptance\"," ++
    "\"free_text_redacted\":false,\"observed_at\":" ++ at_ ++ ",\"outcome_id\":\"" ++ sampleOutcomeId ++
    "\",\"reason_code\":null,\"redactor_version\":\"outcome-redactor.v1\",\"run_id\":\"run-1\"," ++
    "\"schema\":\"harness.outcome.v1\",\"source\":\x7b\"kind\":\"human_action\",\"record_id\":\"" ++ record ++
    "\",\"record_sha256\":\"1d28e5bc2fe434b431ef3b405780b9ab6c0c9afdc84f24ef39d5938841f32e01\"," ++
    "\"source_domain_event_id\":null,\"source_sha\":null\x7d,\"subject\":\x7b\"id\":\"run-1\",\"kind\":\"run\"\x7d," ++
    "\"supersedes\":[]\x7d"

def sampleDigests : List (String × String) :=
  [("harness.outcome.id.v1\x00run-1\x00\"run\"\x00run-1\x00\"operator_acceptance\"", sampleOutcomeId),
   (sampleAction, "1d28e5bc2fe434b431ef3b405780b9ab6c0c9afdc84f24ef39d5938841f32e01"),
   ("harness.outcome.replay.v1\x00k2\x00" ++ sampleOutcomeId ++ "\x00" ++ sampleAction,
     "3e370dc61bea3faebd49da16afe0b05f0ea3255027a9a39e303ce135316977fd"),
   (sampleText "7" "5", "b7e2b413a7427768fd691f1e98482d95bdb5ef7fceb5360d04aff6c2cab19010"),
   (sampleText "1" "9", "49525c3077649af2c53f9c3a6a86575628f331c7881922fffc08adc73a340bfc"),
   ("\x7b\x7d", "44136fa355b3678a1146ad16f7e8649e94fb4fc21fe77e8310c060f61caaff8a")]

def sampleWire : Wire where
  sha256 s := (sampleDigests.lookup s).getD ""
  text
    | .outcome o => sampleText o.source.recordId (toString o.observedAt)
    | .other _   => ""
  actionText _ := sampleAction
  eventText _ _ := ""
  contract _ _ := .error .json
  canonicalId _ _ := none
  wireRevision _ _ := none
  references _ _ := .ok ()

def sampleReferenced : Referenced := ⟨["run-1"], [], [], [], [], []⟩

def sampleOutcome : NewOperatorOutcome :=
  ⟨"run-1", ⟨.run, "run-1"⟩, .operatorAcceptance, .positive, "accepted_without_correction", none, none, none, [],
    "operator", "k2"⟩

def sampleRevision (state : ImprovementState) : NewImprovementRevision :=
  ⟨"rev-1", .outcome, sampleOutcomeId, .outcomeV1, state, .outcome (sampleOutcome.payload sampleWire 7 5),
    "b7e2b413a7427768fd691f1e98482d95bdb5ef7fceb5360d04aff6c2cab19010", .internal, .governance, false, "k1", "event-1",
    none, none⟩

def mixedRun (state : ImprovementState) : List Op :=
  [.appendRevision (sampleRevision state) 5, .recordOutcome sampleOutcome 9]

def sampleStates (state : ImprovementState) : List ImprovementState :=
  (aggregate (run (step sampleWire) (emptyLedger sampleReferenced) (mixedRun state)) .outcome sampleOutcomeId).map
    Revision.state

theorem mixedRun_states :
    sampleStates .observed = [.observed, .observed] ∧
    Along (step sampleWire) (OpensOutcome sampleWire) (emptyLedger sampleReferenced) (mixedRun .observed) ∧
    sampleStates .superseded = [.superseded, .observed] := by
  decide +kernel

theorem improvement_ledger_sound_mixedRun :
    sampleStates .observed = [.observed, .observed] ∧
    Numbered (run (step sampleWire) (emptyLedger sampleReferenced) (mixedRun .observed)) .outcome sampleOutcomeId :=
  ⟨mixedRun_states.1,
    ((improvement_ledger_sound sampleWire sampleReferenced (mixedRun .observed) mixedRun_states.2.1).1 .outcome
      sampleOutcomeId).1⟩

/-- **An operator's outcome follows a superseded revision.** -/
theorem superseded_outcome_observed_again :
    ∃ kind id, ¬ (aggregate (run (step sampleWire) (emptyLedger sampleReferenced) (mixedRun .superseded)) kind id).IsChain
      (Keeps kind) := by
  refine ⟨.outcome, sampleOutcomeId, fun h => ?_⟩
  have hmoves : (sampleStates .superseded).IsChain (fun a b => improvementTransitionAllowed .outcome a b = true) :=
    List.isChain_map_of_isChain Revision.state (fun _ _ hk => hk.transition) h
  rw [mixedRun_states.2.2, List.isChain_cons_cons] at hmoves
  exact absurd hmoves.1 (by decide)

end Improvement
end Bildr
