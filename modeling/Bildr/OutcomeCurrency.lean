import Bildr.OutcomeSupersession
import Bildr.RunAudit
/-!
# OutcomeCurrency — what the projection says about the use of resources

Every projection of a run records, for each of its completions, the use of resources under the run's present budget and
samples.  A budget and samples that were projected before are a repetition of the revision they made then, so the highest
revision may be of another budget.  `projectsLabel` says when it is not: something new is recorded, or the highest
revision has the right label already.
-/
namespace Bildr
namespace Improvement

open Trace

/-! ## One outcome -/

def AuthoritativeOutcomeInput.revisionId (w : Wire) (i : AuthoritativeOutcomeInput) : String :=
  "outcome-revision-" ++ i.identity w

def Recorded (w : Wire) (t : Tables) (i : AuthoritativeOutcomeInput) : Prop :=
  ∃ r ∈ aggregate t .outcome (stableAuthoritativeOutcomeId w i), r.id = i.revisionId w

theorem recorded_extends {w : Wire} {t t' : Tables} (h : Extends t t') {i : AuthoritativeOutcomeInput}
    (hi : Recorded w t i) : Recorded w t' i := by
  obtain ⟨r, hr, hid⟩ := hi
  obtain ⟨hmem, hof⟩ := List.mem_filter.1 hr
  exact ⟨r, List.mem_filter.2 ⟨h.revisions.subset hmem, hof⟩, hid⟩

theorem append_recorded {w : Wire} {i : AuthoritativeOutcomeInput} {now : Int} {t : Tables} {ans : Revision × Event}
    (h : (appendImprovementRevision w (i.revision w) now t).1 = .ok ans) :
    Recorded w (appendImprovementRevision w (i.revision w) now t).2 i := by
  unfold appendImprovementRevision at h ⊢
  rcases transaction_cases _ t with ⟨e, -, ht⟩ | ⟨a, t', hb, ht⟩
  · rw [ht] at h
    cases h
  · rw [ht]
    obtain ⟨_, -, hb⟩ := bind_ok hb
    cases hk : eventByKey t (i.revision w).idempotencyKey with
    | some e =>
      -- a repetition compares the stored revision with the input's
      rw [hk] at hb
      obtain ⟨b, hr, hb⟩ := bind_ok hb
      cases hb
      unfold replayRevision at hr
      obtain ⟨r, hread, hr⟩ := bind_ok hr
      obtain ⟨_, hsame, -⟩ := bind_ok hr
      have hsame := ensure_ok hsame
      simp only [Bool.and_eq_true, beq_iff_eq, decide_eq_true_eq] at hsame
      obtain ⟨⟨⟨⟨⟨⟨⟨⟨⟨hid, hkind⟩, hagg⟩, -⟩, -⟩, -⟩, -⟩, -⟩, -⟩, -⟩ := hsame
      exact ⟨r, List.mem_filter.2 ⟨Table.mem_of_get (readImprovementRevision_ok hread).1, ofAggregate_iff.2 ⟨hkind, hagg⟩⟩,
        hid⟩
    | none =>
      rw [hk] at hb
      obtain ⟨-, hw, -⟩ := appendNew_ok hk hb
      refine ⟨_, List.mem_filter.2 ⟨Table.mem_of_get hw.get_revision, ofAggregate_iff.2 ⟨rfl, rfl⟩⟩, rfl⟩

theorem append_extends (w : Wire) (i : NewImprovementRevision) (now : Int) (t : Tables) :
    Extends t (appendImprovementRevision w i now t).2 := step_extends w t (.appendRevision i now)

theorem recordAuthoritative_ok {w : Wire} {i : AuthoritativeOutcomeInput} {now : Int} {t : Tables}
    (h : (recordAuthoritativeOutcome w i now t).1 = .ok ()) :
    checkAuthoritativeOutcome w i = .ok () ∧
    (recordAuthoritativeOutcome w i now t).2 = (appendImprovementRevision w (i.revision w) now t).2 ∧
    ∃ ans, (appendImprovementRevision w (i.revision w) now t).1 = .ok ans := by
  unfold recordAuthoritativeOutcome at h ⊢
  cases hc : checkAuthoritativeOutcome w i with
  | error e =>
    rw [hc] at h
    cases h
  | ok u =>
    rw [hc] at h
    refine ⟨rfl, andThen_keeps id (fun _ => rfl), ?_⟩
    cases ha : (appendImprovementRevision w (i.revision w) now t).1 with
    | ok ans => exact ⟨ans, rfl⟩
    | error e =>
      have herr := andThen_error (f := fun _ => Call.ret ()) ha
      simp only [herr] at h
      cases h

theorem recordAuthoritative_repeated {w : Wire} {i : AuthoritativeOutcomeInput} {now : Int} {t t' : Tables}
    (h : (recordAuthoritativeOutcome w i now t).1 = .ok ()) (hx : Extends (recordAuthoritativeOutcome w i now t).2 t')
    (later : Int) : recordAuthoritativeOutcome w i later t' = (.ok (), t') := by
  obtain ⟨hc, ht, ans, ha⟩ := recordAuthoritative_ok h
  rw [ht] at hx
  have hagain := append_repeated ha hx later
  have hok : (appendImprovementRevision w (i.revision w) later t').1 = .ok ans := by rw [hagain]
  unfold recordAuthoritativeOutcome
  rw [hc]
  simp only [andThen_ok hok, hagain]
  rfl

/-! ## All outcomes of a projection -/

/-- What a successful projection did: everything is recorded, and each outcome has new revisions of inputs that were
not recorded before. -/
structure Projected (w : Wire) (is : List AuthoritativeOutcomeInput) (t t' : Tables) : Prop where
  grows : Extends t t'
  recorded : ∀ i ∈ is, Recorded w t' i
  added : ∀ id, ∃ new, aggregate t' .outcome id = aggregate t .outcome id ++ new ∧
    ∀ r ∈ new, ∃ i ∈ is, stableAuthoritativeOutcomeId w i = id ∧ r.payload = .outcome (i.payload w) ∧
      t.revisions.get (i.revisionId w) = none

theorem recordAll_projected {w : Wire} (clock : Nat → Int) : ∀ (is : List AuthoritativeOutcomeInput) {t : Tables},
    (recordAll w clock is t).1 = .ok () → Projected w is t (recordAll w clock is t).2
  | [], t, _ => by
    refine ⟨extends_refl t, fun i hi => absurd hi List.not_mem_nil, fun id => ⟨[], ?_, fun r hr => absurd hr List.not_mem_nil⟩⟩
    rw [List.append_nil]
    rfl
  | i :: is, t, h => by
    unfold recordAll at h ⊢
    cases hr : (recordAuthoritativeOutcome w i (clock is.length) t).1 with
    | error e =>
      rw [andThen_error hr] at h
      cases h
    | ok u =>
      rw [andThen_ok hr] at h ⊢
      obtain ⟨-, ht, ans, ha⟩ := recordAuthoritative_ok hr
      rw [ht] at h ⊢
      have hrec := append_recorded ha
      have hext := append_extends w (i.revision w) (clock is.length) t
      have hcases := append_cases w (i.revision w) (clock is.length) t
      generalize (appendImprovementRevision w (i.revision w) (clock is.length) t).2 = t₁ at h hrec hext hcases
      obtain ⟨hgrow, hall, hadded⟩ := recordAll_projected clock is h
      refine ⟨extends_trans hext hgrow, fun j hj => ?_, fun id => ?_⟩
      · rcases List.mem_cons.1 hj with rfl | hj
        · exact recorded_extends hgrow hrec
        · exact hall j hj
      · obtain ⟨new, hnew, hof⟩ := hadded id
        -- an input that is not recorded after the first call was not recorded before it
        have hlater : ∀ r ∈ new, ∃ j ∈ i :: is, stableAuthoritativeOutcomeId w j = id ∧
            r.payload = .outcome (j.payload w) ∧ t.revisions.get (j.revisionId w) = none := by
          intro r hr
          obtain ⟨j, hj, hid, hpay, hget⟩ := hof r hr
          refine ⟨j, List.mem_cons_of_mem i hj, hid, hpay, ?_⟩
          cases hget' : t.revisions.get (j.revisionId w) with
          | none => rfl
          | some q =>
            rw [Table.get_extends hext.revisions hget'] at hget
            cases hget
        rcases hcases with ht₁ | ⟨-, hw, -⟩
        · refine ⟨new, ?_, hlater⟩
          rw [hnew, ht₁]
        · have hfree : t.revisions.get (i.revisionId w) = none := by
            rw [Table.get_none]
            intro q hq hid
            have hnodup := t₁.revisions.nodup
            rw [hw.revisions, List.map_append, List.nodup_append] at hnodup
            exact hnodup.2.2 _ (List.mem_map.2 ⟨q, hq, rfl⟩) _ List.mem_cons_self hid
          rw [hw.aggregate_eq, List.append_assoc] at hnew
          refine ⟨_, hnew, fun r hr => ?_⟩
          rcases List.mem_append.1 hr with hr | hr
          · split at hr
            · rename_i hof'
              obtain rfl := List.mem_singleton.1 hr
              exact ⟨i, List.mem_cons_self, (ofAggregate_iff.1 hof').2, rfl, hfree⟩
            · cases hr
          · exact hlater r hr

theorem recordAll_repeated {w : Wire} {clock : Nat → Int} : ∀ {is : List AuthoritativeOutcomeInput} {t t' : Tables},
    (recordAll w clock is t).1 = .ok () → Extends (recordAll w clock is t).2 t' → ∀ later : Nat → Int,
      recordAll w later is t' = (.ok (), t')
  | [], _, _, _, _, _ => rfl
  | i :: is, t, t', h, hx, later => by
    unfold recordAll at h hx ⊢
    cases hr : (recordAuthoritativeOutcome w i (clock is.length) t).1 with
    | error e =>
      rw [andThen_error hr] at h
      cases h
    | ok u =>
      rw [andThen_ok hr] at h hx
      have hfirst := recordAuthoritative_repeated hr (extends_trans (recordAll_projected clock is h).grows hx)
        (later is.length)
      have hok : (recordAuthoritativeOutcome w i (later is.length) t').1 = .ok () := by rw [hfirst]
      rw [andThen_ok hok, hfirst]
      exact recordAll_repeated h hx later

theorem project_repeated {w : SourceWire} {s : Sources} {run : String} {clock : Nat → Int} {t : Tables}
    (h : (projectAuthoritativeOutcomes w s run clock t).1 = .ok ()) (later : Nat → Int) :
    projectAuthoritativeOutcomes w s run later (projectAuthoritativeOutcomes w s run clock t).2 =
      (.ok (), (projectAuthoritativeOutcomes w s run clock t).2) := by
  unfold projectAuthoritativeOutcomes at h ⊢
  cases hi : authoritativeInputs w s run with
  | error e =>
    rw [hi] at h
    cases h
  | ok inputs =>
    rw [hi] at h
    exact recordAll_repeated h (extends_refl _) later

/-! ## The use of resources -/

def resourceText (run : String) : String := outcomeIdText run ⟨.run, run⟩ .resourceUse

def resourceOutcomeId (w : Wire) (run : String) : String := w.sha256 (resourceText run)

def completions (s : Sources) (run : String) : List Run.DomainEvent :=
  (lifecycleRows s run).filter (fun e => (((e.payload.get "next_state").bind Json.Value.asStr).bind completionCode).isSome)

def label (r : Revision) : Option (OutcomeClassification × String) :=
  match r.payload with
  | .outcome o => some (o.classification, o.code)
  | .other _   => none

/-- The highest revision about the use of resources has the label of the run's ledger. -/
def Current (w : Wire) (s : Sources) (t : Tables) (run : String) : Prop :=
  ∀ l, runLedger s run = .ok l → ∀ r, currentRevision t .outcome (resourceOutcomeId w run) = some r →
    label r = some (resourceLabel l)

/-- Some completion is not recorded yet with the run's ledger, or the highest revision has the ledger's label. -/
def projectsLabel (w : SourceWire) (s : Sources) (t : Tables) (run : String) : Bool :=
  match runLedger s run with
  | .error _ => true
  | .ok l    =>
    (completions s run).any (fun e => (t.revisions.get ((resourceInput w run l e).revisionId w.toWire)).isNone) ||
      (currentRevision t .outcome (resourceOutcomeId w.toWire run)).all (fun r => decide (label r = some (resourceLabel l)))

theorem dimension_no_nul (d : OutcomeDimension) : '\x00' ∉ d.json.toList.reverse := by
  cases d <;> decide

theorem dimension_json_inj {d d' : OutcomeDimension} (h : d.json = d'.json) : d = d' := by
  cases d <;> cases d' <;> first | rfl | exact absurd h (by decide)

theorem outcomeIdText_dimension {run run' : String} {subject subject' : OutcomeSubject}
    {dimension dimension' : OutcomeDimension}
    (heq : outcomeIdText run subject dimension = outcomeIdText run' subject' dimension') : dimension = dimension' := by
  have hnul : "\x00".toList = ['\x00'] := by decide
  unfold outcomeIdText at heq
  generalize "harness.outcome.id.v1\x00" = head at heq
  have hlist := congrArg (fun x => x.toList.reverse) heq
  simp only [String.toList_append, hnul, List.reverse_append, List.reverse_cons, List.reverse_nil, List.nil_append,
    List.cons_append] at hlist
  have hrev := append_separator_inj (dimension_no_nul dimension) (dimension_no_nul dimension') hlist
  exact dimension_json_inj (String.toList_inj.1 (List.reverse_injective hrev))

theorem authoritativeInputs_ok {w : SourceWire} {s : Sources} {run : String} {inputs : List AuthoritativeOutcomeInput}
    (h : authoritativeInputs w s run = .ok inputs) :
    ∃ validations l, validationInputs w s run = .ok validations ∧ runLedger s run = .ok l ∧
      inputs = validations ++ evidenceInputs s run ++ findingInputs w s run ++
        (lifecycleRows s run).flatMap (lifecycleInputs w run l) ++ verifiedInputs w s run := by
  unfold authoritativeInputs at h
  obtain ⟨validations, hv, h⟩ := bind_ok h
  obtain ⟨l, hl, h⟩ := bind_ok h
  cases h
  exact ⟨validations, l, hv, hl, rfl⟩

theorem mem_resourceInputs {w : SourceWire} {s : Sources} {run : String} {inputs : List AuthoritativeOutcomeInput}
    {l : RunLedger} (h : authoritativeInputs w s run = .ok inputs) (hl : runLedger s run = .ok l)
    (i : AuthoritativeOutcomeInput) :
    (i ∈ inputs ∧ i.dimension = .resourceUse) ↔ ∃ e ∈ completions s run, i = resourceInput w run l e := by
  obtain ⟨validations, l', hv, hl', rfl⟩ := authoritativeInputs_ok h
  obtain rfl : l' = l := Except.ok.inj (hl'.symm.trans hl)
  simp only [List.mem_append, completions, List.mem_filter]
  constructor
  · rintro ⟨(((hi | hi) | hi) | hi) | hi, hd⟩
    · -- a validation is about the validation or the required checks
      obtain ⟨v, -, hvi⟩ := (mem_mapM hv).1 hi
      unfold validationInput at hvi
      obtain ⟨at_, -, hvi⟩ := bind_ok hvi
      cases hvi
      simp only at hd
      split at hd <;> cases hd
    · obtain ⟨v, -, rfl⟩ := List.mem_map.1 hi
      cases hd
    · obtain ⟨v, -, rfl⟩ := List.mem_map.1 hi
      cases hd
    · obtain ⟨e, he, hi⟩ := List.mem_flatMap.1 hi
      unfold lifecycleInputs at hi
      cases hc : ((e.payload.get "next_state").bind Json.Value.asStr).bind completionCode with
      | none =>
        rw [hc] at hi
        cases hi
      | some code =>
        rw [hc] at hi
        rcases List.mem_cons.1 hi with rfl | hi
        · cases hd
        · exact ⟨e, ⟨he, by rw [hc]; rfl⟩, List.mem_singleton.1 hi⟩
    · obtain ⟨v, -, rfl⟩ := List.mem_map.1 hi
      cases hd
  · rintro ⟨e, ⟨he, hc⟩, rfl⟩
    refine ⟨Or.inl (Or.inr (List.mem_flatMap.2 ⟨e, he, ?_⟩)), rfl⟩
    obtain ⟨code, hcode⟩ := Option.isSome_iff_exists.1 hc
    unfold lifecycleInputs
    rw [hcode]
    exact List.mem_cons_of_mem _ List.mem_cons_self

theorem recordAll_ledger {w : Wire} (clock : Nat → Int) {is : List AuthoritativeOutcomeInput} {t : Tables}
    (h : LedgerInv w t) : LedgerInv w (recordAll w clock is t).2 := by
  refine recordAll_keeps clock (LedgerInv w) is (fun i _ now u hu => ?_) h
  rcases recordAuthoritativeOutcome_cases w i now u with ht | ⟨next, e, hw⟩
  · rw [ht]
    exact hu
  · exact hw.keeps_inv hu

theorem project_ledger {w : SourceWire} {s : Sources} {run : String} {clock : Nat → Int} {t : Tables}
    (h : LedgerInv w.toWire t) : LedgerInv w.toWire (projectAuthoritativeOutcomes w s run clock t).2 := by
  unfold projectAuthoritativeOutcomes
  cases authoritativeInputs w s run with
  | error e => exact h
  | ok inputs => exact recordAll_ledger clock h

theorem label_resourceInput {w : SourceWire} {run : String} {l : RunLedger} {e : Run.DomainEvent} {r : Revision}
    (h : r.payload = .outcome ((resourceInput w run l e).payload w.toWire)) : label r = some (resourceLabel l) := by
  unfold label
  rw [h]
  rfl

theorem project_current_iff {w : SourceWire} {s : Sources} {run : String} {clock : Nat → Int} {t : Tables}
    {inputs : List AuthoritativeOutcomeInput} (h : LedgerInv w.toWire t) (hin : authoritativeInputs w s run = .ok inputs)
    (hfree : CollisionFree w.sha256 (resourceText run :: inputs.map inputText))
    (hok : (projectAuthoritativeOutcomes w s run clock t).1 = .ok ()) :
    Current w.toWire s (projectAuthoritativeOutcomes w s run clock t).2 run ↔ projectsLabel w s t run = true := by
  obtain ⟨_, l, -, hl, -⟩ := authoritativeInputs_ok hin
  have hledger : LedgerInv w.toWire (projectAuthoritativeOutcomes w s run clock t).2 := project_ledger h
  have hproj : Projected w.toWire inputs t (projectAuthoritativeOutcomes w s run clock t).2 := by
    unfold projectAuthoritativeOutcomes at hok ⊢
    rw [hin] at hok ⊢
    exact recordAll_projected clock inputs hok
  generalize (projectAuthoritativeOutcomes w s run clock t).2 = t' at hledger hproj
  obtain ⟨new, hnew, hof⟩ := hproj.added (resourceOutcomeId w.toWire run)
  -- what is new about the use of resources has the ledger's label and was not recorded before
  have hlabel : ∀ r ∈ new, label r = some (resourceLabel l) ∧ ∃ e ∈ completions s run,
      t.revisions.get ((resourceInput w run l e).revisionId w.toWire) = none := by
    intro r hr
    obtain ⟨i, hi, hid, hpay, hget⟩ := hof r hr
    have htext : inputText i = resourceText run :=
      hfree _ (List.mem_cons_of_mem _ (List.mem_map.2 ⟨i, hi, rfl⟩)) _ List.mem_cons_self hid
    obtain ⟨e, he, rfl⟩ := (mem_resourceInputs hin hl i).1 ⟨hi, outcomeIdText_dimension htext⟩
    exact ⟨label_resourceInput hpay, e, he, hget⟩
  have hcurrent : Current w.toWire s t' run ↔
      ∀ r ∈ (aggregate t .outcome (resourceOutcomeId w.toWire run) ++ new).getLast?, label r = some (resourceLabel l) := by
    unfold Current
    rw [hledger.currentRevision_eq, hnew]
    refine ⟨fun hc r hr => hc l hl r hr, fun hc l' hl' r hr => ?_⟩
    rw [Except.ok.inj (hl'.symm.trans hl)]
    exact hc r hr
  rw [hcurrent]
  unfold projectsLabel
  rw [hl]
  simp only [Bool.or_eq_true, h.currentRevision_eq]
  cases new using List.reverseRecOn with
  | nil =>
    -- nothing was added, so every completion was recorded with this ledger
    have hnone : (completions s run).any
        (fun e => (t.revisions.get ((resourceInput w run l e).revisionId w.toWire)).isNone) = false := by
      rw [List.any_eq_false]
      intro e he
      obtain ⟨hmem, -⟩ := (mem_resourceInputs hin hl (resourceInput w run l e)).2 ⟨e, he, rfl⟩
      obtain ⟨r, hr, hid⟩ := hproj.recorded _ hmem
      have hagg : aggregate t' .outcome (stableAuthoritativeOutcomeId w.toWire (resourceInput w run l e)) =
          aggregate t .outcome (resourceOutcomeId w.toWire run) := by
        rw [← List.append_nil (aggregate t .outcome (resourceOutcomeId w.toWire run)), ← hnew]
        rfl
      rw [hagg] at hr
      rw [Table.get_some.2 ⟨(List.mem_filter.1 hr).1, hid⟩]
      simp
    rw [List.append_nil, hnone, Bool.false_eq_true, false_or]
    cases (aggregate t .outcome (resourceOutcomeId w.toWire run)).getLast? with
    | none => simp
    | some r => simp
  | append_singleton new r _ =>
    have hr : r ∈ new ++ [r] := List.mem_append_right _ List.mem_cons_self
    obtain ⟨hlab, e, he, hget⟩ := hlabel r hr
    rw [← List.append_assoc, List.getLast?_concat]
    constructor
    · intro _
      exact Or.inl (List.any_eq_true.2 ⟨e, he, by rw [hget]; rfl⟩)
    · intro _ q hq
      obtain rfl : r = q := Option.some.inj hq
      exact hlab

/-! ## Worlds -/

structure World where
  sources : Sources
  tables : Tables

/-- A call on runs (their lifecycle and their budget), a new token sample, other calls on the records the projection
reads, and a projection. -/
inductive WorldOp
  | runCall (o : Run.Op)
  | sample (q : SampleRow)
  | records (s : Sources)
  | project (run : String) (clock : Nat → Int)

def referTo (r : Run.Tables) (t : Tables) : Tables :=
  { t with referenced := { t.referenced with
      runs := r.runs.rows.map Run.RunRow.id, domainEvents := r.events.map (fun e => (e.id : Int)) } }

def worldStep (w : SourceWire) (W : World) : WorldOp → World
  | .runCall o         =>
    let runs := Run.step W.sources.runs o
    ⟨{ W.sources with runs := runs }, referTo runs W.tables⟩
  | .sample q          => { W with sources := { W.sources with samples := W.sources.samples ++ [q] } }
  | .records s         => { W with sources := { s with runs := W.sources.runs, samples := W.sources.samples } }
  | .project run clock => { W with tables := (projectAuthoritativeOutcomes w W.sources run clock W.tables).2 }

theorem worldRun_ledger (w : SourceWire) : ∀ (ops : List WorldOp) {W : World}, LedgerInv w.toWire W.tables →
    LedgerInv w.toWire (run (worldStep w) W ops).tables
  | [], _, h => h
  | o :: ops, W, h => by
    refine worldRun_ledger w ops ?_
    cases o with
    | runCall o => exact ⟨h.paired, h.numbered, h.readable⟩
    | sample q => exact h
    | records s => exact h
    | project run clock => exact project_ledger h

/-- **The projection of the use of resources.**  In every state that calls on runs, samples and projections reach, a
projection that succeeds leaves the highest revision of the run's use of resources with the label of the present budget
and samples exactly when something new is recorded or the label was there already; and projected again, it changes
nothing. -/
theorem projected_resource_use (w : SourceWire) (s : Sources) (referenced : Referenced) (ops : List WorldOp)
    (run : String) (clock : Nat → Int) (inputs : List AuthoritativeOutcomeInput) :
    let W := Trace.run (worldStep w) ⟨s, emptyLedger referenced⟩ ops
    authoritativeInputs w W.sources run = .ok inputs →
    CollisionFree w.sha256 (resourceText run :: inputs.map inputText) →
    (projectAuthoritativeOutcomes w W.sources run clock W.tables).1 = .ok () →
    let t' := (projectAuthoritativeOutcomes w W.sources run clock W.tables).2
    (Current w.toWire W.sources t' run ↔ projectsLabel w W.sources W.tables run = true) ∧
    ∀ later, projectAuthoritativeOutcomes w W.sources run later t' = (.ok (), t') := by
  intro W hin hfree hok t'
  have h : LedgerInv w.toWire W.tables := worldRun_ledger w ops (emptyLedger_inv w.toWire referenced)
  exact ⟨project_current_iff h hin hfree hok, fun later => project_repeated hok later⟩

end Improvement
end Bildr
