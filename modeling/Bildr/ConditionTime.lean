import Bildr.ConditionLedger
/-!
# ConditionTime — when a condition was observed

A condition is as new as its last observation: an observation brings its own time, which is checked against when the
condition was opened and not against when it was last updated.  Times go forward in the runs where every observation
that is next for its condition does (`InOrder`).
-/
namespace Bildr
namespace Control

open Json (Value)
open Trace (run Along)

/-! ## Times that go forward -/

def ConditionCall.observation : ConditionCall → Option (Nat × ConditionObservation)
  | .register _                 => none
  | .registerOrRead _           => none
  | .record _ v o _             => some (v, o)
  | .recordAndEmit _ v o _ _    => some (v, o)

/-- An observation that is next for its condition is not of an earlier time than the condition. -/
def InOrder (t : ConditionTables) (call : ConditionCall) : Prop :=
  ∀ v o, call.observation = some (v, o) → ∀ c ∈ t.conditions.rows, c.conditionId = o.conditionId → c.version = v →
    c.state.isTerminal = false → o.sequence = c.sequence + 1 →
    (∀ p ∈ t.observations.rows, p.conditionId = o.conditionId → p.sourceEventId ≠ o.sourceEventId) →
      c.updatedAtMs ≤ o.observedAtMs

/-- The observations of every condition are in the order of their times, and the condition is as new as any. -/
def TimesKept (t : ConditionTables) : Prop :=
  ∀ c ∈ t.conditions.rows, (observedOf t c.conditionId).Pairwise (fun o p => o.observedAtMs ≤ p.observedAtMs) ∧
    ∀ o ∈ observedOf t c.conditionId, o.observedAtMs ≤ c.updatedAtMs

/-- After a call times are in order and no condition is older than before. -/
def TimesForward (w : Wire) (t : ConditionTables) (call : ConditionCall) : Prop :=
  TimesKept (conditionStep w t call) ∧ ∀ c ∈ t.conditions.rows, ∀ c' ∈ (conditionStep w t call).conditions.rows,
    c'.conditionId = c.conditionId → c.updatedAtMs ≤ c'.updatedAtMs

/-! ## What a call observes -/

theorem observed_version {w : Wire} {id : String} {v : Nat} {o : ConditionObservation}
    {event : Option ConditionMaterialEvent} {now : Int} {a : ExternalCondition} {t t' : ConditionTables}
    (h : observationInnerBody w id v o event now t = .ok (a, t')) :
    t' = t ∨ ∃ c, t.conditions.get o.conditionId = some c ∧ c.version = v := by
  unfold observationInnerBody at h
  obtain ⟨-, h⟩ := bind_unit_ok.1 h
  obtain ⟨-, h⟩ := ensure_bind_ok.1 h
  obtain ⟨link, -, h⟩ := bind_ok h
  obtain ⟨-, -, h⟩ := bind_ok h
  cases hf : t.observations.rows.find? (fun r => r.conditionId == id && r.sourceEventId == o.sourceEventId) with
  | some existing =>
    simp only [hf] at h
    unfold replayObservation at h
    obtain ⟨-, h⟩ := ensure_bind_ok.1 h
    obtain ⟨-, h⟩ := ensure_bind_ok.1 h
    obtain ⟨row, -, h⟩ := bind_ok h
    obtain ⟨current, -, h⟩ := bind_ok h
    obtain ⟨-, h⟩ := bind_unit_ok.1 h
    obtain ⟨-, h⟩ := ensure_bind_ok.1 h
    obtain ⟨-, h⟩ := bind_unit_ok.1 h
    cases h
    exact Or.inl rfl
  | none =>
    simp only [hf] at h
    unfold observeCondition at h
    obtain ⟨c, hstored, h⟩ := bind_ok h
    obtain ⟨-, h⟩ := bind_unit_ok.1 h
    obtain ⟨-, h⟩ := bind_unit_ok.1 h
    obtain ⟨-, -, h⟩ := bind_ok h
    obtain ⟨hversion, -⟩ := ensure_bind_ok.1 h
    exact Or.inr ⟨c, okOr_ok hstored, by simpa using hversion⟩

/-- What a call changes: nothing of what was observed, or its own observation of the version it expects. -/
inductive Observes (w : Wire) (t t' : ConditionTables) (call : ConditionCall) : Prop
  | unobserved (observations : t'.observations = t.observations)
      (conditions : ∀ c ∈ t'.conditions.rows, c ∈ t.conditions.rows ∨ t.conditions.get c.conditionId = none)
  | observed (v : Nat) (o : ConditionObservation) (c : ExternalCondition) (own : call.observation = some (v, o))
      (stored : t.conditions.get o.conditionId = some c) (version : c.version = v) (active : c.state.isTerminal = false)
      (next : o.sequence = c.sequence + 1)
      (unseen : ∀ p ∈ t.observations.rows, p.conditionId = o.conditionId → p.sourceEventId ≠ o.sourceEventId)
      (observations : t'.observations.rows = t.observations.rows ++ [o])
      (conditions : ∀ d, d ∈ t'.conditions.rows ↔ d = c.after w o ∨ d ∈ t.conditions.rows ∧ d.conditionId ≠ o.conditionId)

theorem register_observes {w : Wire} {same : ExternalCondition → ExternalCondition → Bool} {why : String}
    {c a : ExternalCondition} {t t' : ConditionTables} {call : ConditionCall} (h : registerBody w same why c t = .ok (a, t')) :
    Observes w t t' call := by
  have hobservations : t'.observations = t.observations := by
    unfold registerBody at h
    obtain ⟨-, h⟩ := bind_unit_ok.1 h
    obtain ⟨-, h⟩ := ensure_bind_ok.1 h
    split at h
    · obtain ⟨existing, -, h⟩ := bind_ok h
      obtain ⟨-, h⟩ := ensure_bind_ok.1 h
      cases h
      rfl
    · obtain ⟨conditions, -, h⟩ := bind_ok h
      cases h
      rfl
  cases register_change h with
  | same heq => exact .unobserved hobservations fun d hd => Or.inl (heq ▸ hd)
  | registered d _ hfresh _ hrows _ =>
    refine .unobserved hobservations fun e he => ?_
    rw [hrows, List.mem_append, List.mem_singleton] at he
    rcases he with he | rfl
    · exact Or.inl he
    · exact Or.inr hfresh
  | observed d o event now _ _ _ _ ho _ _ _ =>
    have hrows := (insertRow_ok_iff.1 ho).2
    rw [hobservations] at hrows
    exact absurd (congrArg List.length hrows) (by simp)

theorem inner_observes {w : Wire} {id : String} {v : Nat} {o : ConditionObservation}
    {event : Option ConditionMaterialEvent} {now : Int} {a : ExternalCondition} {t t' : ConditionTables}
    {call : ConditionCall} (hown : call.observation = some (v, o))
    (h : observationInnerBody w id v o event now t = .ok (a, t')) : Observes w t t' call := by
  rcases observe_change h with ⟨rfl, -⟩ | ⟨c, -, hstored, hactive, hnext, hunseen, ho, -, hconditions, -⟩
  · exact .unobserved rfl fun d hd => Or.inl hd
  · have hrows := (insertRow_ok_iff.1 ho).2
    rcases observed_version h with rfl | ⟨d, hd, hversion⟩
    · exact absurd (congrArg List.length hrows) (by simp)
    · obtain rfl := Option.some.inj (hstored.symm.trans hd)
      exact .observed v o c hown hstored hversion hactive hnext hunseen hrows hconditions

theorem performCondition_observes (w : Wire) (t : ConditionTables) (call : ConditionCall) :
    Observes w t (conditionStep w t call) call := by
  have hsame : Observes w t t call := .unobserved rfl fun d hd => Or.inl hd
  cases call with
  | register c =>
    exact transaction_after (P := fun t' => Observes w t t' (.register c)) hsame fun a t' hb => register_observes hb
  | registerOrRead c =>
    exact transaction_after (P := fun t' => Observes w t t' (.registerOrRead c)) hsame fun a t' hb => register_observes hb
  | record id v o now =>
    exact transaction_after (P := fun t' => Observes w t t' (.record id v o now)) hsame fun a t' hb => inner_observes rfl hb
  | recordAndEmit id v o event now =>
    refine transaction_after (P := fun t' => Observes w t t' (.recordAndEmit id v o event now)) hsame (fun a t' hb => ?_)
    obtain ⟨-, hb⟩ := bind_unit_ok.1 hb
    obtain ⟨-, hb⟩ := ensure_bind_ok.1 hb
    exact inner_observes rfl hb

/-! ## Runs -/

theorem observedOf_fresh {w : Wire} {t : ConditionTables} (h : ConditionsKept w t) {id : String}
    (hfresh : t.conditions.get id = none) : observedOf t id = [] := by
  refine List.filter_eq_nil_iff.2 fun o ho hid => ?_
  obtain ⟨d, hd, hdo⟩ := h.owned o ho
  exact Table.get_none.1 hfresh d hd (hdo.trans (by simpa using hid))

theorem timesForward_step {w : Wire} {t : ConditionTables} {call : ConditionCall} (hkept : ConditionsKept w t)
    (htimes : TimesKept t) (horder : InOrder t call) : TimesForward w t call := by
  unfold TimesForward TimesKept
  cases performCondition_observes w t call with
  | unobserved hobservations hconditions =>
    have hof : ∀ id, observedOf (conditionStep w t call) id = observedOf t id := fun id => by
      unfold observedOf
      rw [hobservations]
    refine ⟨fun c hc => ?_, fun c hc c' hc' hid => ?_⟩
    · rw [hof]
      rcases hconditions c hc with hc | hfresh
      · exact htimes c hc
      · rw [observedOf_fresh hkept hfresh]
        exact ⟨List.Pairwise.nil, fun o ho => by cases ho⟩
    · rcases hconditions c' hc' with hc' | hfresh
      · rw [List.inj_on_of_nodup_map t.conditions.nodup hc hc' hid.symm]
      · exact absurd hid.symm (Table.get_none.1 hfresh c hc)
  | observed v o c hown hstored hversion hactive hnext hunseen hobservations hconditions =>
    have hid : c.conditionId = o.conditionId := Table.key_of_get hstored
    have hc := Table.mem_of_get hstored
    have hle : c.updatedAtMs ≤ o.observedAtMs := horder v o hown c hc hid hversion hactive hnext hunseen
    refine ⟨fun d hd => ?_, fun d hd d' hd' hsame => ?_⟩
    · rcases (hconditions d).1 hd with rfl | ⟨hd, hne⟩
      · obtain ⟨hpairwise, hlast⟩ := htimes c hc
        have hown' : observedOf (conditionStep w t call) (c.after w o).conditionId = observedOf t c.conditionId ++ [o] :=
          hid ▸ observedOf_own hobservations
        rw [hown']
        refine ⟨List.pairwise_append.2 ⟨hpairwise, List.pairwise_singleton _ _, fun p hp q hq => ?_⟩, fun p hp => ?_⟩
        · obtain rfl := List.mem_singleton.1 hq
          exact le_trans (hlast p hp) hle
        · rcases List.mem_append.1 hp with hp | hp
          · exact le_trans (hlast p hp) hle
          · obtain rfl := List.mem_singleton.1 hp
            exact le_refl _
      · rw [observedOf_other hobservations (Ne.symm hne)]
        exact htimes d hd
    · rcases (hconditions d').1 hd' with rfl | ⟨hd', -⟩
      · obtain rfl : c = d := List.inj_on_of_nodup_map t.conditions.nodup hc hd hsame
        exact hle
      · rw [List.inj_on_of_nodup_map t.conditions.nodup hd hd' hsame.symm]

/-- **Times go forward in every run whose observations are in order.** -/
theorem times_forward {w : Wire} {t : ConditionTables} {calls : List ConditionCall}
    (horder : Along (conditionStep w) InOrder t.unconditioned calls) :
    Along (conditionStep w) (TimesForward w) t.unconditioned calls := by
  refine Trace.along_of_step (fun s => ConditionsKept w s ∧ TimesKept s) (fun s call hs hcall => ?_)
    (fun s call hs hcall => timesForward_step hs.1 hs.2 hcall) ⟨conditionsKept_new w t, fun c hc => by cases hc⟩ horder
  exact ⟨hs.1.step (performCondition_change w s call), (timesForward_step hs.1 hs.2 hcall).1⟩

/-! ## What is accepted -/

theorem after_valid {w : Wire} {c : ExternalCondition} {o : ConditionObservation} (hc : c.validate w = .ok ())
    (ho : o.validate w = .ok ()) (hid : o.conditionId = c.conditionId) (htime : c.openedAtMs ≤ o.observedAtMs)
    (hlength : w.byteLength (c.after w o).json ≤ maxConditionPayloadBytes) : (c.after w o).validate w = .ok () := by
  unfold ExternalCondition.validate at hc ⊢
  obtain ⟨hschema, hc⟩ := ensure_bind_ok.1 hc
  obtain ⟨hcondition, hc⟩ := bind_unit_ok.1 hc
  obtain ⟨howner, hc⟩ := bind_unit_ok.1 hc
  obtain ⟨hsource, hc⟩ := bind_unit_ok.1 hc
  obtain ⟨hidentity, hc⟩ := bind_unit_ok.1 hc
  obtain ⟨htimes, hc⟩ := ensure_bind_ok.1 hc
  obtain ⟨hpolicy, hc⟩ := bind_unit_ok.1 hc
  obtain ⟨hspec, -⟩ := bind_unit_ok.1 hc
  refine ensure_bind_ok.2 ⟨hschema, bind_unit_ok.2 ⟨hcondition, bind_unit_ok.2 ⟨howner, bind_unit_ok.2 ⟨hsource,
    bind_unit_ok.2 ⟨hidentity, ensure_bind_ok.2 ⟨?_, bind_unit_ok.2 ⟨hpolicy, bind_unit_ok.2 ⟨hspec,
      bind_unit_ok.2 ⟨?_, ensure_bind_ok.2 ⟨decide_eq_true hlength, bind_unit_ok.2 ⟨validateLowerHex_ok.2 ?_,
        ensure_ok_iff.2 ?_⟩⟩⟩⟩⟩⟩⟩⟩⟩⟩⟩
  · simp only [Bool.and_eq_true, decide_eq_true_eq, Bool.not_eq_true', beq_eq_false_iff_ne] at htimes ⊢
    exact ⟨⟨Nat.succ_ne_zero _, htimes.1.2⟩, htime⟩
  · show (o.validate w >>= fun _ => _) = _
    rw [ho, ok_bind]
    simp [ExternalCondition.after, hid]
  · exact Digest.isHex _
  · exact beq_self_eq_true _

/-- **A new observation is accepted** where it and the condition it makes are valid and their rows can be stored. -/
theorem observe_accepted {w : Wire} {t : ConditionTables} {o : ConditionObservation} {c : ExternalCondition} {now : Int}
    {observations : Table ConditionObservation.observationId} {links : Links} (hvalid : o.validate w = .ok ())
    (hget : t.conditions.get o.conditionId = some c) (hc : c.validate w = .ok ())
    (hactive : c.state.isTerminal = false) (hnext : o.sequence = c.sequence + 1)
    (hunseen : ∀ p ∈ t.observations.rows, p.sourceEventId ≠ o.sourceEventId) (hfits : fitsI64 (c.version + 1) = true)
    (hafter : (c.after w o).validate w = .ok ()) (ho : insertRow t.observations o = .ok observations)
    (hl : recordCorrelationLinkInTransaction t.control.links (conditionLink w o) = .ok links) :
    performCondition w (.record o.conditionId c.version o now) t = (.ok (c.after w o),
      ⟨{ t.control with links := links }, t.events, t.conditions.update (fun r => r.conditionId == o.conditionId)
        (fun r => { c.after w o with conditionId := r.conditionId }) (fun _ => rfl), observations⟩) := by
  have hnone : t.observations.rows.find? (fun r => r.conditionId == o.conditionId && r.sourceEventId == o.sourceEventId) =
      none := by
    refine List.find?_eq_none.2 fun p hp => ?_
    have hne : (p.sourceEventId == o.sourceEventId) = false := by simpa using hunseen p hp
    rw [hne, Bool.and_false]
    exact Bool.false_ne_true
  have hversion : fitsI64 c.version = true := by
    unfold fitsI64 at hfits ⊢
    simp only [decide_eq_true_eq] at hfits ⊢
    omega
  have hcurrent : ∀ field, toI64 c.version field = .ok (c.version : Int) := fun field => if_pos hversion
  have hlater : ∀ field, toI64 (c.after w o).version field = .ok ((c.version + 1 : Nat) : Int) := fun field => if_pos hfits
  have hbody : observationInnerBody w o.conditionId c.version o none now t = .ok (c.after w o,
      ⟨{ t.control with links := links }, t.events, t.conditions.update (fun r => r.conditionId == o.conditionId)
        (fun r => { c.after w o with conditionId := r.conditionId }) (fun _ => rfl), observations⟩) := by
    unfold observationInnerBody
    rw [hvalid, ok_bind, beq_self_eq_true, ensure_true, ok_bind, conditionLink_eq, ok_bind, hcurrent, ok_bind, hnone]
    unfold observeCondition ensureMaterialEventBinding emitMaterialEvent
    rw [hget]
    simp only [okOr, ok_bind, hc, hcurrent, hactive, hnext, beq_self_eq_true, ensure_true, Bool.not_false, hafter, hlater,
      ho, hl]
    rfl
  show transaction (observationInnerBody w o.conditionId c.version o none now) t = _
  unfold transaction
  rw [hbody]

/-! ## A clock that was set back -/

/-- The digests and the lengths of a condition that was opened at 1000 and observed at 3000 (`p`) and at 2000 (`q`). -/
def gateRecords : List ((Option Value × Option Value) × Digest × Nat) :=
  [((some (.str "harness.condition-observation.v1"), some (ofNat 1)),
      .ofNat 0xeaa3ab3f76172c49cd28246cbfc4e15a1cc8b5f43d59aa65a0bb13c19a10d655, 247),
    ((some (.str "harness.condition-observation.v1"), some (ofNat 2)),
      .ofNat 0x2b99f1b1b0df2a770003d846ffae255bc732caf3d6e56da662ed5915ce42e60d, 247),
    ((some (.str "harness.external-condition.v1"), some (ofNat 0)),
      .ofNat 0x644660053875b69f987742fed9646a3dd420697fa554e8552d58f29511b3e963, 485),
    ((some (.str "harness.external-condition.v1"), some (ofNat 1)),
      .ofNat 0x7d80f9b362669e29ff20c72695d44b521188b180e03db8c75b0a6b64909cac79, 728),
    ((some (.str "harness.external-condition.v1"), some (ofNat 2)),
      .ofNat 0xda79a979af8359be2656fe8189d0a5eb04d779c1ea0f385b01a87776148533d4, 728)]

def clockWire : Wire where
  sha256 := fun text => ([
    ("harness.condition-observation.trace.v1:p",
      Digest.ofNat 0x1250579fc92568f1cdd9a13855056ccd76167fa7e510d246aadd1b6eeb6681e8),
    ("harness.condition-observation.span.v1:p",
      .ofNat 0xc473ade560f64b41e1a2e80f97be461abec0848ae94c2fe6d467233e28311c5b),
    ("harness.condition-observation.link.v1:p",
      .ofNat 0x4162bfdd66d39df4055638ba84fee5e17e0956b8c8fb49cc2f09a6fc7719af30),
    ("harness.condition-observation.trace.v1:q",
      .ofNat 0x9c7396c024e3ed84a3cc6baab5fc7dfb95a303bcfbc527ea3714de0c7e98651c),
    ("harness.condition-observation.span.v1:q",
      .ofNat 0x2d02cb6e6a1f662dd23b817fe8436c6df582ed3c03a9c4733acac619759cd5a5),
    ("harness.condition-observation.link.v1:q",
      .ofNat 0xb95d9d1c7319cf0483e68ed73088f7caa64a41536d0c04a93194e2f3485ad31f)].lookup text).getD (.ofNat 0)
  digestJson := fun v => ((gateRecords.lookup (v.get "schema", v.get "sequence")).map Prod.fst).getD (.ofNat 0)
  byteLength := fun v => ((gateRecords.lookup (v.get "schema", v.get "sequence")).map Prod.snd).getD 2

def gateObservation (id source : String) (sequence : Nat) (observedAtMs : Int) (sha256 : String) : ConditionObservation :=
  ⟨"harness.condition-observation.v1", id, "c", source, sequence, observedAtMs, .open, .obj [], sha256⟩

def laterGate : ConditionObservation :=
  gateObservation "p" "e1" 1 3000 "eaa3ab3f76172c49cd28246cbfc4e15a1cc8b5f43d59aa65a0bb13c19a10d655"

def earlierGate : ConditionObservation :=
  gateObservation "q" "e2" 2 2000 "2b99f1b1b0df2a770003d846ffae255bc732caf3d6e56da662ed5915ce42e60d"

def openedGate : ExternalCondition where
  schema := "harness.external-condition.v1"
  conditionId := "c"
  ownerType := .run
  ownerId := "run-1"
  adapter := .timeGate
  sourceId := "s"
  spec := .obj []
  state := .open
  sequence := 0
  pollPolicy := ⟨1, 1, none⟩
  sourceIdentityDigest := "043a718774c572bd8a25adbeb1bfcd5c0256ae11cecf9f9c3f925d0e52beaf89"
  lastObservation := none
  version := 1
  openedAtMs := 1000
  updatedAtMs := 1000
  sha256 := "644660053875b69f987742fed9646a3dd420697fa554e8552d58f29511b3e963"

def emptyConditions : ConditionTables := ⟨.empty, [], ∅, ∅⟩

/-- The tables with the condition as it is, its observations and its links. -/
def gateTables (c : ExternalCondition) (observations : Table ConditionObservation.observationId) (links : Links) :
    ConditionTables :=
  ⟨{ ControlTables.empty with links := links }, [], ⟨[c], List.nodup_singleton _⟩, observations⟩

def laterCondition : ExternalCondition := openedGate.after clockWire laterGate

def earlierCondition : ExternalCondition := laterCondition.after clockWire earlierGate

section Clock
set_option maxRecDepth 2000

theorem openedGate_valid : openedGate.validate clockWire = .ok () := by decide

theorem laterGate_valid : laterGate.validate clockWire = .ok () := by decide

theorem earlierGate_valid : earlierGate.validate clockWire = .ok () := by decide

theorem laterCondition_valid : laterCondition.validate clockWire = .ok () :=
  after_valid openedGate_valid laterGate_valid rfl (by decide) (by decide)

theorem earlierCondition_valid : earlierCondition.validate clockWire = .ok () :=
  after_valid laterCondition_valid earlierGate_valid rfl (by decide) (by decide)

theorem laterLink_valid : (conditionLink clockWire laterGate).validate = .ok () := by decide

theorem earlierLink_valid : (conditionLink clockWire earlierGate).validate = .ok () := by decide

theorem links_differ : (conditionLink clockWire laterGate).trace.traceId ≠ (conditionLink clockWire earlierGate).trace.traceId ∧
    (conditionLink clockWire laterGate).linkId ≠ (conditionLink clockWire earlierGate).linkId := by decide

theorem link_kinds (o : ConditionObservation) : ':' ∉ (conditionLink clockWire o).fromKind.toList ∧
    ':' ∉ (conditionLink clockWire o).toKind.toList ∧
    (conditionLink clockWire o).fromKind ≠ (conditionLink clockWire o).toKind := by
  unfold conditionLink
  dsimp only
  decide

end Clock

theorem gate_opened : conditionStep clockWire emptyConditions (.register openedGate) = gateTables openedGate ∅ ∅ := by
  have hbody : registerBody clockWire (fun existing c => existing == c) "different current content" openedGate
      emptyConditions = .ok (openedGate, gateTables openedGate ∅ ∅) := by
    unfold registerBody
    rw [openedGate_valid, ok_bind]
    rfl
  show (transaction _ emptyConditions).2 = _
  unfold transaction
  rw [hbody]

theorem gate_observes {o : ConditionObservation} {c : ExternalCondition} {now : Int} {links : Links}
    {t : ConditionTables} (ht : t.conditions.rows = [c]) (hid : c.conditionId = o.conditionId)
    (hvalid : o.validate clockWire = .ok ()) (hc : c.validate clockWire = .ok ()) (hactive : c.state.isTerminal = false)
    (hnext : o.sequence = c.sequence + 1) (hunseen : ∀ p ∈ t.observations.rows, p.sourceEventId ≠ o.sourceEventId)
    (hfits : fitsI64 (c.version + 1) = true) (hafter : (c.after clockWire o).validate clockWire = .ok ())
    (hfresh : o.observationId ∉ t.observations.rows.map ConditionObservation.observationId)
    (hl : recordCorrelationLinkInTransaction t.control.links (conditionLink clockWire o) = .ok links) :
    (conditionStep clockWire t (.record o.conditionId c.version o now)).conditions.rows = [c.after clockWire o] ∧
      (conditionStep clockWire t (.record o.conditionId c.version o now)).observations.rows = t.observations.rows ++ [o] ∧
      (conditionStep clockWire t (.record o.conditionId c.version o now)).control.links = links := by
  have hget : t.conditions.get o.conditionId = some c :=
    Table.get_some.2 ⟨by rw [ht]; exact List.mem_cons_self, hid⟩
  obtain ⟨observations, hobservations⟩ := insertRow_isOk hfresh
  unfold conditionStep
  rw [observe_accepted hvalid hget hc hactive hnext hunseen hfits hafter hobservations hl]
  refine ⟨?_, (insertRow_ok_iff.1 hobservations).2, rfl⟩
  show t.conditions.rows.map _ = _
  rw [ht, List.map_singleton]
  exact congrArg (fun r => [r]) (if_pos (beq_iff_eq.2 hid))

def observeLater : ConditionCall := .record laterGate.conditionId openedGate.version laterGate 3000

def observeEarlier : ConditionCall := .record earlierGate.conditionId laterCondition.version earlierGate 3001

theorem gate_later : (conditionStep clockWire (gateTables openedGate ∅ ∅) observeLater).conditions.rows = [laterCondition] ∧
    (conditionStep clockWire (gateTables openedGate ∅ ∅) observeLater).observations.rows = [laterGate] ∧
    (conditionStep clockWire (gateTables openedGate ∅ ∅) observeLater).control.links.rows =
      [conditionLink clockWire laterGate] ∧
    Sound (conditionStep clockWire (gateTables openedGate ∅ ∅) observeLater).control.links := by
  have hnext : laterGate.sequence = openedGate.sequence + 1 := rfl
  have hfits : fitsI64 (openedGate.version + 1) = true := by decide
  have hid : openedGate.conditionId = laterGate.conditionId := rfl
  have hactive : openedGate.state.isTerminal = false := rfl
  obtain ⟨links, hlinks, hrows, hsound⟩ :=
    record_alone sound_empty laterLink_valid (link_kinds laterGate) (fun r hr => by cases hr)
  unfold observeLater
  obtain ⟨hconditions, hobservations, hcontrol⟩ := @gate_observes _ _ 3000 links (gateTables openedGate ∅ ∅) rfl hid
    laterGate_valid openedGate_valid hactive hnext (fun p hp => by cases hp) hfits laterCondition_valid
    (fun h => by cases h) hlinks
  rw [hcontrol]
  exact ⟨hconditions, hobservations, hrows, hsound⟩

theorem gate_earlier {t : ConditionTables} (ht : t.conditions.rows = [laterCondition])
    (ho : t.observations.rows = [laterGate]) (hl : t.control.links.rows = [conditionLink clockWire laterGate])
    (hs : Sound t.control.links) : (conditionStep clockWire t observeEarlier).conditions.rows = [earlierCondition] := by
  have hnext : earlierGate.sequence = laterCondition.sequence + 1 := rfl
  have hfits : fitsI64 (laterCondition.version + 1) = true := by decide
  have hid : laterCondition.conditionId = earlierGate.conditionId := rfl
  have hactive : laterCondition.state.isTerminal = false := rfl
  obtain ⟨links, hlinks, -⟩ := record_alone hs earlierLink_valid (link_kinds earlierGate) (fun r hr => by
    rw [hl, List.mem_singleton] at hr
    rw [hr]
    exact links_differ)
  unfold observeEarlier
  exact (@gate_observes _ _ 3001 links t ht hid earlierGate_valid laterCondition_valid hactive hnext (by rw [ho]; decide)
    hfits earlierCondition_valid (by rw [ho]; decide) hlinks).1

/-- One observation of the gate after it was opened. -/
theorem times_forward_later : Along (conditionStep clockWire) (TimesForward clockWire) emptyConditions.unconditioned
    [.register openedGate, observeLater] := by
  refine times_forward (And.intro (fun v o ho => by cases ho) (And.intro (fun v o ho c hc _ _ _ _ _ => ?_) trivial))
  cases ho
  have hrow : c ∈ (gateTables openedGate ∅ ∅).conditions.rows := gate_opened ▸ hc
  obtain rfl := List.mem_singleton.1 hrow
  decide

/-- **A condition becomes older**: an observation of an earlier time is accepted. -/
theorem clock_set_back : ¬ ∀ (w : Wire) (t : ConditionTables) (calls : List ConditionCall),
    Along (conditionStep w) (TimesForward w) t.unconditioned calls := by
  intro hall
  obtain ⟨-, -, ⟨-, hforward⟩, -⟩ := hall clockWire emptyConditions [.register openedGate, observeLater, observeEarlier]
  have hopened : conditionStep clockWire emptyConditions.unconditioned (.register openedGate) =
      gateTables openedGate ∅ ∅ := gate_opened
  rw [hopened] at hforward
  obtain ⟨hlater, hobservations, hlinks, hsound⟩ := gate_later
  have hearlier := gate_earlier hlater hobservations hlinks hsound
  have hle := hforward laterCondition (by rw [hlater]; exact List.mem_cons_self) earlierCondition
    (by rw [hearlier]; exact List.mem_cons_self) rfl
  exact absurd hle (by decide)

end Control
end Bildr
