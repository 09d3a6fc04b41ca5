import Bildr.Authoritative
import Bildr.ImprovementLedger
import Bildr.Supersession
/-!
# OutcomeSupersession — the heads of an outcome

Operators may supersede heads of an outcome, the projection supersedes nothing.  Every revision either of them writes
keeps the outcome a coherent log (`writes_coherent`), so the heads that the intake checks and the ones that the vector
shows are the revisions nothing supersedes.  The vector groups the revisions of one run; it has all revisions of an
outcome as long as the digests of the outcomes' identities do not collide.
-/
namespace Bildr
namespace Improvement

open Trace

def targets (r : Revision) : List String :=
  match r.payload with
  | .outcome o => o.supersedes
  | .other _   => []

def identityText (r : Revision) : Option String :=
  match r.payload with
  | .outcome o => some (outcomeIdText o.runId o.subject o.dimension)
  | .other _   => none

def runOf (r : Revision) : Option String :=
  match r.payload with
  | .outcome o => some o.runId
  | .other _   => none

def superseded (t : Tables) (r : Revision) : Bool :=
  ((aggregate t .outcome r.aggregateId).flatMap targets).contains r.id

/-- An outcome's revision, identified by the digest of a text of `texts`. -/
structure Identified (w : Wire) (texts : List String) (r : Revision) : Prop where
  kind : r.aggregateKind = .outcome
  payload : ∃ o, r.payload = .outcome o ∧ o.outcomeId = r.aggregateId
  text : ∃ x ∈ texts, identityText r = some x ∧ r.aggregateId = w.sha256 x

structure OutcomeInv (w : Wire) (texts : List String) (t : Tables) : Prop where
  ledger : LedgerInv w t
  identified : ∀ r ∈ t.revisions.rows, Identified w texts r
  coherent : ∀ id, Supersession.Coherent Revision.id targets (aggregate t .outcome id)

/-! ## What the two calls write -/

/-- The new revision is identified and supersedes heads of its outcome. -/
structure Supersedes (w : Wire) (texts : List String) (t : Tables) (r : Revision) : Prop where
  identified : Identified w texts r
  known : ∀ x ∈ targets r, x ∈ (aggregate t .outcome r.aggregateId).map Revision.id
  heads : ∀ x ∈ targets r, x ∉ (aggregate t .outcome r.aggregateId).flatMap targets

theorem mapM_parse : ∀ {rows : List Revision} {outcomes : List OutcomeWireV1},
    rows.mapM (fun r => parseOutcome r.payload) = .ok outcomes →
      outcomes.flatMap OutcomeWireV1.supersedes = rows.flatMap targets
  | [], outcomes, h => by cases h; rfl
  | r :: rows, outcomes, h => by
    rw [List.mapM_cons] at h
    obtain ⟨o, ho, h⟩ := bind_ok h
    obtain ⟨os, hos, h⟩ := bind_ok h
    cases h
    have htargets : targets r = o.supersedes := by
      unfold parseOutcome at ho
      unfold targets
      split at ho
      · cases ho; simp [*]
      · cases ho
    rw [List.flatMap_cons, List.flatMap_cons, mapM_parse hos, htargets]

/-- **The intake's check**: every target is a revision of the outcome that nothing supersedes. -/
theorem validateOutcomeSupersedes_ok {t : Tables} {id : String} {l : List String}
    (h : validateOutcomeSupersedes t id l = .ok ()) {x : String} (hx : x ∈ l) :
    x ∈ (aggregate t .outcome id).map Revision.id ∧ x ∉ (aggregate t .outcome id).flatMap targets := by
  unfold validateOutcomeSupersedes at h
  split at h
  · rename_i hnil
    rw [List.isEmpty_iff.1 hnil] at hx
    cases hx
  · unfold aggregate
    obtain ⟨outcomes, hos, h⟩ := bind_ok h
    obtain ⟨_, hall, hhead⟩ := bind_ok (forM_ok h hx)
    refine ⟨List.contains_iff_mem.1 (ensure_ok hall), fun hmem => ?_⟩
    have hfree := ensure_ok hhead
    rw [mapM_parse hos, List.contains_iff_mem.2 hmem] at hfree
    exact Bool.noConfusion hfree

def inputText (i : AuthoritativeOutcomeInput) : String := outcomeIdText i.runId i.subject i.dimension

theorem operator_supersedes {w : Wire} {texts : List String} {t : Tables} {i : NewOperatorOutcome}
    (htext : outcomeIdText i.runId i.subject i.dimension ∈ texts)
    (h : validateOutcomeSupersedes t (stableOutcomeId w i) i.supersedes = .ok ()) (actionId next : Nat) (now : Int) :
    Supersedes w texts t (i.row w (i.payload w actionId now) next now) := by
  refine ⟨⟨rfl, ⟨_, rfl, rfl⟩, ⟨_, htext, rfl, rfl⟩⟩, fun x hx => ?_, fun x hx => ?_⟩
  · exact (validateOutcomeSupersedes_ok h hx).1
  · exact (validateOutcomeSupersedes_ok h hx).2

theorem authoritative_supersedes {w : Wire} {texts : List String} (t : Tables) {i : AuthoritativeOutcomeInput}
    (htext : inputText i ∈ texts) (next : Nat) (now : Int) : Supersedes w texts t ((i.revision w).row next now) :=
  ⟨⟨rfl, ⟨_, rfl, rfl⟩, ⟨_, htext, rfl, rfl⟩⟩, fun _ hx => absurd hx List.not_mem_nil,
    fun _ hx => absurd hx List.not_mem_nil⟩

theorem writes_coherent {w : Wire} {texts : List String} {t t' : Tables} {r : Revision} {e : Event}
    (h : OutcomeInv w texts t) (hw : Wrote w t t' r e) (hs : Supersedes w texts t r) : OutcomeInv w texts t' := by
  refine ⟨hw.keeps_inv h.ledger, fun q hq => ?_, fun id => ?_⟩
  · rw [hw.revisions] at hq
    rcases List.mem_append.1 hq with hq | hq
    · exact h.identified q hq
    · obtain rfl := List.mem_singleton.1 hq
      exact hs.identified
  · rw [hw.aggregate_eq]
    split
    · rename_i hr
      obtain ⟨-, rfl⟩ := ofAggregate_iff.1 hr
      exact (h.coherent r.aggregateId).append hs.known hs.heads
    · rw [List.append_nil]
      exact h.coherent id

theorem recordAuthoritativeOutcome_cases (w : Wire) (i : AuthoritativeOutcomeInput) (now : Int) (t : Tables) :
    (recordAuthoritativeOutcome w i now t).2 = t ∨ ∃ next e,
      Wrote w t (recordAuthoritativeOutcome w i now t).2 ((i.revision w).row next now) e := by
  unfold recordAuthoritativeOutcome
  cases checkAuthoritativeOutcome w i with
  | error e => exact Or.inl rfl
  | ok u =>
    have hkeep : ((appendImprovementRevision w (i.revision w) now).andThen (fun _ => Call.ret ()) t).2 =
        (appendImprovementRevision w (i.revision w) now t).2 := andThen_keeps id (fun _ => rfl)
    rw [hkeep]
    rcases append_cases w (i.revision w) now t with ht | ⟨-, hw, -⟩
    · exact Or.inl ht
    · exact Or.inr ⟨_, _, hw⟩

theorem recordAll_keeps {w : Wire} (clock : Nat → Int) (P : Tables → Prop) : ∀ (is : List AuthoritativeOutcomeInput)
    {t : Tables}, (∀ i ∈ is, ∀ now u, P u → P (recordAuthoritativeOutcome w i now u).2) → P t →
      P (recordAll w clock is t).2
  | [], _, _, h => h
  | i :: is, t, hP, h => by
    have hi := hP i List.mem_cons_self (clock is.length) t h
    unfold recordAll
    cases hr : (recordAuthoritativeOutcome w i (clock is.length) t).1 with
    | error e =>
      rw [andThen_error hr]
      exact hi
    | ok u =>
      rw [andThen_ok hr]
      exact recordAll_keeps clock P is (fun j hj => hP j (List.mem_cons_of_mem i hj)) hi

theorem recordAll_inv {w : Wire} {texts : List String} (clock : Nat → Int) {is : List AuthoritativeOutcomeInput}
    {t : Tables} (h : OutcomeInv w texts t) (htexts : ∀ i ∈ is, inputText i ∈ texts) :
    OutcomeInv w texts (recordAll w clock is t).2 := by
  refine recordAll_keeps clock (OutcomeInv w texts) is (fun i hi now u hu => ?_) h
  rcases recordAuthoritativeOutcome_cases w i now u with ht | ⟨next, e, hw⟩
  · rw [ht]
    exact hu
  · exact writes_coherent hu hw (authoritative_supersedes u (htexts i hi) next now)

/-! ## Runs -/

/-- An operator's outcome, a projection of the sources at that time, or another call that changes the rows outcomes
refer to. -/
inductive OutcomeOp
  | recordOutcome (i : NewOperatorOutcome) (now : Int)
  | project (s : Sources) (run : String) (clock : Nat → Int)
  | refer (r : Referenced)

def outcomeStep (w : SourceWire) (t : Tables) : OutcomeOp → Tables
  | .recordOutcome i now   => (recordOperatorOutcome w.toWire i now t).2
  | .project s run clock   => (projectAuthoritativeOutcomes w s run clock t).2
  | .refer r               => { t with referenced := r }

def OutcomeOp.texts (w : SourceWire) : OutcomeOp → List String
  | .recordOutcome i _ => [outcomeIdText i.runId i.subject i.dimension]
  | .project s run _   =>
    match authoritativeInputs w s run with
    | .ok inputs => inputs.map inputText
    | .error _   => []
  | .refer _           => []

theorem outcomeStep_inv (w : SourceWire) {texts : List String} {t : Tables} (h : OutcomeInv w.toWire texts t)
    (o : OutcomeOp) (htexts : ∀ x ∈ o.texts w, x ∈ texts) : OutcomeInv w.toWire texts (outcomeStep w t o) := by
  cases o with
  | recordOutcome i now =>
    rcases record_cases w.toWire i now t with ht | ⟨-, hv, hw⟩
    · simp only [outcomeStep, ht]
      exact h
    · exact writes_coherent h hw (operator_supersedes (htexts _ List.mem_cons_self) hv _ _ _)
  | project s run clock =>
    simp only [OutcomeOp.texts] at htexts
    simp only [outcomeStep, projectAuthoritativeOutcomes]
    cases hi : authoritativeInputs w s run with
    | error e => exact h
    | ok inputs =>
      rw [hi] at htexts
      exact recordAll_inv clock h (fun i hmem => htexts _ (List.mem_map.2 ⟨i, hmem, rfl⟩))
  | refer r => exact ⟨⟨h.ledger.paired, h.ledger.numbered, h.ledger.readable⟩, h.identified, h.coherent⟩

theorem outcomeRun_inv (w : SourceWire) {texts : List String} : ∀ (ops : List OutcomeOp) {t : Tables},
    OutcomeInv w.toWire texts t → (∀ o ∈ ops, ∀ x ∈ o.texts w, x ∈ texts) →
      OutcomeInv w.toWire texts (run (outcomeStep w) t ops)
  | [], _, h, _ => h
  | o :: ops, _, h, htexts =>
    outcomeRun_inv w ops (outcomeStep_inv w h o (htexts o List.mem_cons_self))
      (fun p hp => htexts p (List.mem_cons_of_mem o hp))

/-! ## The vector -/

def CollisionFree (sha256 : String → String) (texts : List String) : Prop :=
  ∀ a ∈ texts, ∀ b ∈ texts, sha256 a = sha256 b → a = b

def runRevisions (t : Tables) (run : String) : List Revision :=
  t.revisions.rows.filter (fun r => decide (r.aggregateKind = .outcome) && decide (runOf r = some run))

theorem outcomeRows_eq (t : Tables) (run : String) :
    outcomeRows t run = (SortedSet.ofList ((runRevisions t run).map Revision.aggregateId)).flatMap (fun id =>
      (runRevisions t run).filter (fun r => r.aggregateId == id)) := by
  unfold outcomeRows
  refine congrArg (fun rows => (SortedSet.ofList (rows.map Revision.aggregateId)).flatMap (fun id =>
    rows.filter (fun r => r.aggregateId == id))) (List.filter_congr (fun r _ => ?_))
  cases hp : r.payload with
  | outcome o => simp [runOf, hp, beq_eq_decide]
  | other v => simp [runOf, hp]

theorem filter_grouped (rows : List Revision) (ids : List String) (hids : ids.Nodup) {id : String} (hid : id ∈ ids) :
    (ids.flatMap (fun k => rows.filter (fun r => r.aggregateId == k))).filter (fun r => r.aggregateId == id) =
      rows.filter (fun r => r.aggregateId == id) := by
  induction ids with
  | nil => cases hid
  | cons k ids ih =>
    obtain ⟨hk, hids⟩ := List.nodup_cons.1 hids
    rw [List.flatMap_cons, List.filter_append]
    by_cases hkid : k = id
    · subst hkid
      have hrest : (ids.flatMap (fun k' => rows.filter (fun r => r.aggregateId == k'))).filter
          (fun r => r.aggregateId == k) = [] := by
        rw [List.filter_eq_nil_iff]
        intro r hr
        obtain ⟨k', hk', hr⟩ := List.mem_flatMap.1 hr
        have hrk : r.aggregateId = k' := by simpa using (List.mem_filter.1 hr).2
        intro heq
        have : r.aggregateId = k := by simpa using heq
        exact hk (by rw [← this, hrk]; exact hk')
      rw [hrest, List.append_nil, List.filter_filter]
      simp
    · have hfirst : (rows.filter (fun r => r.aggregateId == k)).filter (fun r => r.aggregateId == id) = [] := by
        rw [List.filter_eq_nil_iff]
        intro r hr heq
        have h1 : r.aggregateId = k := by simpa using (List.mem_filter.1 hr).2
        have h2 : r.aggregateId = id := by simpa using heq
        exact hkid (h1.symm.trans h2)
      rw [hfirst, List.nil_append]
      exact ih hids ((List.mem_cons.1 hid).resolve_left (Ne.symm hkid))

theorem safe_no_nul {run : String} (h : isSafeOperatorControlIdentifier run = true) : '\x00' ∉ run.toList := by
  intro hmem
  simp only [isSafeOperatorControlIdentifier, token, Bool.and_eq_true, List.all_eq_true] at h
  obtain ⟨-, h⟩ := h
  have hchar := h _ hmem
  have hnul : (Char.isAlphanum '\x00' || List.contains ['_', '-', '.', ':'] '\x00') = false := by decide
  rw [hnul] at hchar
  exact Bool.noConfusion hchar

theorem append_separator_inj {c : Char} : ∀ {l l' m m' : List Char}, c ∉ l → c ∉ l' → l ++ c :: m = l' ++ c :: m' → l = l'
  | [], [], _, _, _, _, _ => rfl
  | [], a :: l', _, _, _, h', heq => by
    rw [List.nil_append, List.cons_append, List.cons.injEq] at heq
    exact absurd (heq.1 ▸ List.mem_cons_self) h'
  | a :: l, [], _, _, h, _, heq => by
    rw [List.nil_append, List.cons_append, List.cons.injEq] at heq
    exact absurd (heq.1 ▸ List.mem_cons_self) h
  | a :: l, b :: l', _, _, h, h', heq => by
    rw [List.cons_append, List.cons_append, List.cons.injEq] at heq
    obtain ⟨rfl, heq⟩ := heq
    rw [append_separator_inj (fun hc => h (List.mem_cons_of_mem a hc)) (fun hc => h' (List.mem_cons_of_mem a hc)) heq]

theorem outcomeIdText_run {run run' : String} {subject subject' : OutcomeSubject} {dimension dimension' : OutcomeDimension}
    (h : isSafeOperatorControlIdentifier run = true) (h' : isSafeOperatorControlIdentifier run' = true)
    (heq : outcomeIdText run subject dimension = outcomeIdText run' subject' dimension') : run = run' := by
  have hnul : "\x00".toList = ['\x00'] := by decide
  unfold outcomeIdText at heq
  generalize "harness.outcome.id.v1\x00" = head at heq
  have hlist := congrArg String.toList heq
  simp only [String.toList_append, List.append_assoc, List.append_cancel_left_eq, hnul, List.cons_append] at hlist
  exact String.toList_inj.1 (append_separator_inj (safe_no_nul h) (safe_no_nul h') hlist)

theorem readable_run {w : Wire} {r : Revision} {o : OutcomeWireV1} (h : readable w r = true)
    (hp : r.payload = .outcome o) : isSafeOperatorControlIdentifier o.runId = true := by
  have hvalid : o.validate.isOk = true := by
    unfold readable at h
    rw [hp] at h
    simp only [Bool.and_eq_true] at h
    cases hs : r.schema <;> rw [hs] at h <;> simp at h
    exact h.2
  cases hv : o.validate with
  | error e => rw [hv] at hvalid; cases hvalid
  | ok u =>
    unfold OutcomeWireV1.validate at hv
    obtain ⟨_, -, hv⟩ := bind_ok hv
    obtain ⟨_, -, hv⟩ := bind_ok hv
    obtain ⟨_, hrun, -⟩ := bind_ok hv
    exact ensure_ok hrun

/-- **Revisions of one outcome are of one run**, unless digests collide. -/
theorem OutcomeInv.same_run {w : Wire} {texts : List String} {t : Tables} (h : OutcomeInv w texts t)
    (hfree : CollisionFree w.sha256 texts) {r q : Revision} (hr : r ∈ t.revisions.rows) (hq : q ∈ t.revisions.rows)
    (hid : r.aggregateId = q.aggregateId) : runOf r = runOf q := by
  obtain ⟨x, hx, hxr, hxid⟩ := (h.identified r hr).text
  obtain ⟨y, hy, hyq, hyid⟩ := (h.identified q hq).text
  obtain ⟨o, ho, -⟩ := (h.identified r hr).payload
  obtain ⟨p, hp, -⟩ := (h.identified q hq).payload
  have hxy : x = y := hfree x hx y hy (by rw [← hxid, ← hyid, hid])
  rw [identityText, ho] at hxr
  rw [identityText, hp, ← hxy] at hyq
  have hrun := outcomeIdText_run (readable_run (h.ledger.readable r hr) ho) (readable_run (h.ledger.readable q hq) hp)
    (Option.some.inj (hxr.trans hyq.symm))
  simp only [runOf, ho, hp, hrun]

theorem OutcomeInv.runRevisions_filter {w : Wire} {texts : List String} {t : Tables} (h : OutcomeInv w texts t)
    (hfree : CollisionFree w.sha256 texts) {run id : String} (hid : id ∈ (runRevisions t run).map Revision.aggregateId) :
    (runRevisions t run).filter (fun r => r.aggregateId == id) = aggregate t .outcome id := by
  obtain ⟨q, hq, rfl⟩ := List.mem_map.1 hid
  obtain ⟨hqmem, hq⟩ := List.mem_filter.1 hq
  simp only [Bool.and_eq_true, decide_eq_true_eq] at hq
  unfold runRevisions aggregate
  rw [List.filter_filter]
  refine List.filter_congr (fun r hr => ?_)
  by_cases hrq : r.aggregateId = q.aggregateId
  · have hrun : runOf r = some run := (h.same_run hfree hr hqmem hrq).trans hq.2
    simp [ofAggregate, hrq, hrun]
  · have hne : (r.aggregateId == q.aggregateId) = false := by simpa using hrq
    simp only [ofAggregate, hne, Bool.false_and, Bool.and_false]

theorem mapM_read {w : Wire} : ∀ {rows : List Revision}, (∀ r ∈ rows, readable w r = true) →
    (∀ r ∈ rows, ∃ o, r.payload = .outcome o) → ∃ pairs, rows.mapM (fun r => do
      ensure (readable w r) (StoreError.sqlite .fromSqlConversionFailure)
      let o ← parseOutcome r.payload
      return (r, o)) = .ok pairs ∧ pairs.map Prod.fst = rows ∧ ∀ q ∈ pairs, q.1.payload = .outcome q.2
  | [], _, _ => ⟨[], rfl, rfl, fun _ hq => absurd hq List.not_mem_nil⟩
  | r :: rows, hread, hpay => by
    obtain ⟨pairs, hpairs, hfst, hall⟩ := mapM_read (fun q (hq : q ∈ rows) => hread q (List.mem_cons_of_mem r hq))
      (fun q hq => hpay q (List.mem_cons_of_mem r hq))
    obtain ⟨o, ho⟩ := hpay r List.mem_cons_self
    refine ⟨(r, o) :: pairs, ?_, by rw [List.map_cons, hfst], fun q hq => ?_⟩
    · rw [List.mapM_cons, hpairs, hread r List.mem_cons_self, ho]
      rfl
    · rcases List.mem_cons.1 hq with rfl | hq
      · exact ho
      · exact hall q hq

/-- A view says what the store has: the revision, its payload, and whether something supersedes it. -/
def OutcomeRevisionView.fields (v : OutcomeRevisionView) : String × Nat × Payload × Bool :=
  (v.revisionId, v.revision, .outcome v.outcome, v.isHead)

def headFields (t : Tables) (r : Revision) : String × Nat × Payload × Bool :=
  (r.id, r.revision, r.payload, !superseded t r)

/-- The item of an outcome: all its revisions in order, the heads among them, and whether there are several. -/
structure ItemSound (t : Tables) (item : OutcomeVectorItem) : Prop where
  revisions : item.revisions.map OutcomeRevisionView.fields = (aggregate t .outcome item.outcomeId).map (headFields t)
  conflicted : item.conflicted = decide (1 < (aggregate t .outcome item.outcomeId).countP (fun r => !superseded t r))

theorem vectorItem_sound {t : Tables} {pairs : List (Revision × OutcomeWireV1)} {id : String}
    (hown : (pairs.filter (fun q => q.2.outcomeId == id)).map Prod.fst = aggregate t .outcome id)
    (hpay : ∀ q ∈ pairs, q.1.payload = .outcome q.2) (hne : aggregate t .outcome id ≠ []) :
    ∃ item, vectorItem pairs id = some item ∧ item.outcomeId = id ∧ ItemSound t item := by
  generalize ho : pairs.filter (fun q => q.2.outcomeId == id) = own at hown
  have hpay' : ∀ q ∈ own, q.1.payload = .outcome q.2 := fun q hq => hpay q (List.mem_of_mem_filter (ho ▸ hq))
  have htargets : own.flatMap (fun q => q.2.supersedes) = (aggregate t .outcome id).flatMap targets := by
    rw [← hown, List.flatMap_map]
    refine List.flatMap_congr (fun q hq => ?_)
    simp only [targets, hpay' q hq]
  have hids : ∀ q ∈ own, q.1.aggregateId = id := by
    intro q hq
    have hmem : q.1 ∈ aggregate t .outcome id := hown ▸ List.mem_map.2 ⟨q, hq, rfl⟩
    exact (ofAggregate_iff.1 (List.mem_filter.1 hmem).2).2
  -- a view's head flag is what the store says of the revision
  have hhead : ∀ q ∈ own, (!(own.flatMap (fun q => q.2.supersedes)).contains q.1.id) = !superseded t q.1 := by
    intro q hq
    unfold superseded
    rw [hids q hq, htargets]
  cases hown' : own with
  | nil => exact absurd (by rw [← hown, hown']; rfl) hne
  | cons first rest =>
    let views : List OutcomeRevisionView := own.map (fun q =>
      ⟨q.1.id, q.1.revision, q.2, !(own.flatMap (fun q => q.2.supersedes)).contains q.1.id⟩)
    have hitem : vectorItem pairs id = some ⟨id, first.2.subject, first.2.dimension, views,
        decide (1 < views.countP OutcomeRevisionView.isHead)⟩ := by
      have hfirst : own.head? = some first := by rw [hown']; rfl
      simp only [vectorItem, ho, hfirst, Option.map_some, views]
    refine ⟨_, hitem, rfl, ?_, ?_⟩
    · simp only [views, List.map_map]
      rw [← hown, List.map_map]
      refine List.map_congr_left (fun q hq => ?_)
      simp only [Function.comp, OutcomeRevisionView.fields, headFields, hhead q hq, hpay' q hq]
    · simp only [views, ← hown, List.countP_map]
      congr 2
      refine List.countP_congr (fun q hq => ?_)
      simp only [Function.comp, hhead q hq]

theorem OutcomeInv.vector {w : Wire} {texts : List String} {t : Tables} (h : OutcomeInv w texts t)
    (hfree : CollisionFree w.sha256 texts) (run : String) :
    ∃ items, outcomeVector w t run = .ok items ∧
      items.map OutcomeVectorItem.outcomeId = SortedSet.ofList ((runRevisions t run).map Revision.aggregateId) ∧
      ∀ item ∈ items, ItemSound t item := by
  have hrows := outcomeRows_eq t run
  generalize hids : SortedSet.ofList ((runRevisions t run).map Revision.aggregateId) = ids at hrows ⊢
  have hmemIds : ∀ id, id ∈ ids ↔ id ∈ (runRevisions t run).map Revision.aggregateId := by
    intro id
    rw [← hids, SortedSet.mem_ofList]
  have hmem : ∀ r ∈ outcomeRows t run, r ∈ t.revisions.rows := by
    intro r hr
    rw [hrows] at hr
    obtain ⟨id, -, hr⟩ := List.mem_flatMap.1 hr
    exact List.mem_of_mem_filter (List.mem_of_mem_filter hr)
  obtain ⟨pairs, hpairs, hfst, hpay⟩ := mapM_read (fun r (hr : r ∈ outcomeRows t run) => h.ledger.readable r (hmem r hr))
    (fun r hr => ((h.identified r (hmem r hr)).payload).imp (fun _ ho => ho.1))
  have hagg : ∀ q ∈ pairs, q.2.outcomeId = q.1.aggregateId := by
    intro q hq
    have hq1 : q.1 ∈ outcomeRows t run := hfst ▸ List.mem_map.2 ⟨q, hq, rfl⟩
    obtain ⟨o, ho, hid⟩ := (h.identified q.1 (hmem q.1 hq1)).payload
    rw [hpay q hq] at ho
    rw [Payload.outcome.inj ho]
    exact hid
  -- the items are made of the run's outcomes, each with all its revisions
  have hkeys : SortedSet.ofList (pairs.map (fun q => q.2.outcomeId)) = ids := by
    have hmap : pairs.map (fun q => q.2.outcomeId) = (outcomeRows t run).map Revision.aggregateId := by
      rw [← hfst, List.map_map]
      exact List.map_congr_left hagg
    rw [hmap, ← hids]
    refine SortedSet.ofList_congr (fun id => ⟨fun hid => ?_, fun hid => ?_⟩)
    · obtain ⟨r, hr, rfl⟩ := List.mem_map.1 hid
      rw [hrows] at hr
      obtain ⟨k, -, hr⟩ := List.mem_flatMap.1 hr
      exact List.mem_map.2 ⟨r, List.mem_of_mem_filter hr, rfl⟩
    · obtain ⟨r, hr, rfl⟩ := List.mem_map.1 hid
      refine List.mem_map.2 ⟨r, ?_, rfl⟩
      rw [hrows]
      refine List.mem_flatMap.2 ⟨r.aggregateId, (hmemIds _).2 hid, List.mem_filter.2 ⟨hr, by simp⟩⟩
  have hitem : ∀ id ∈ ids, ∃ item, vectorItem pairs id = some item ∧ item.outcomeId = id ∧ ItemSound t item := by
    intro id hid
    have hrun := h.runRevisions_filter hfree ((hmemIds id).1 hid)
    refine vectorItem_sound ?_ hpay ?_
    · have hfilter : pairs.filter (fun q => q.2.outcomeId == id) = pairs.filter ((fun r => r.aggregateId == id) ∘ Prod.fst) :=
        List.filter_congr (fun q hq => by simp only [Function.comp, hagg q hq])
      rw [hfilter, ← List.filter_map, hfst, hrows, filter_grouped _ _ (hids ▸ SortedSet.nodup_ofList _) hid, hrun]
    · obtain ⟨r, hr, rfl⟩ := List.mem_map.1 ((hmemIds id).1 hid)
      rw [← hrun]
      exact List.ne_nil_of_mem (List.mem_filter.2 ⟨hr, by simp⟩)
  refine ⟨ids.filterMap (vectorItem pairs), ?_, ?_, fun item hi => ?_⟩
  · unfold outcomeVector
    rw [hpairs, ok_bind, hkeys]
    rfl
  · rw [List.map_filterMap]
    have hsome : ids.filterMap (fun id => (vectorItem pairs id).map OutcomeVectorItem.outcomeId) = ids.filterMap some := by
      refine List.filterMap_congr (fun id hid => ?_)
      obtain ⟨item, hi, hidi, -⟩ := hitem id hid
      rw [hi, Option.map_some, hidi]
    rw [hsome, List.filterMap_some]
  · obtain ⟨id, hid, hi⟩ := List.mem_filterMap.1 hi
    obtain ⟨item', hi', -, hs⟩ := hitem id hid
    rw [Option.some.inj (hi.symm.trans hi')]
    exact hs

/-! ## The main result -/

theorem outcomeInv_empty (w : Wire) (texts : List String) (referenced : Referenced) :
    OutcomeInv w texts (emptyLedger referenced) :=
  ⟨emptyLedger_inv w referenced, fun _ hr => absurd hr List.not_mem_nil, fun _ => .nil⟩

theorem OutcomeInv.earlier {w : Wire} {texts : List String} {t : Tables} (h : OutcomeInv w texts t) {id x : String}
    {r : Revision} (hr : r ∈ aggregate t .outcome id) (hx : x ∈ targets r) :
    ∃ q ∈ aggregate t .outcome id, q.id = x ∧ q.revision < r.revision := by
  obtain ⟨before, after, hsplit⟩ := List.append_of_mem hr
  obtain ⟨q, hq, hqx⟩ := List.mem_map.1 ((h.coherent id).earlier hsplit x hx)
  have hgrow : ((aggregate t .outcome id).map Revision.revision).Pairwise (· < ·) := by
    rw [h.ledger.numbered]
    exact List.pairwise_lt_range'
  rw [hsplit, List.map_append, List.pairwise_append] at hgrow
  refine ⟨q, by rw [hsplit]; exact List.mem_append_left _ hq, hqx, ?_⟩
  exact hgrow.2.2 _ (List.mem_map.2 ⟨q, hq, rfl⟩) _ List.mem_cons_self

theorem OutcomeInv.once {w : Wire} {texts : List String} {t : Tables} (h : OutcomeInv w texts t) {id x : String}
    {r r' : Revision} (hr : r ∈ aggregate t .outcome id) (hr' : r' ∈ aggregate t .outcome id) (hx : x ∈ targets r)
    (hx' : x ∈ targets r') : r = r' := by
  by_contra hne
  have : Std.Symm (fun a b : Revision => ∀ y ∈ targets a, y ∉ targets b) := ⟨fun a b hab y hb ha => hab y ha hb⟩
  exact (h.coherent id).once.forall hr hr' hne x hx hx'

theorem OutcomeInv.head {w : Wire} {texts : List String} {t : Tables} (h : OutcomeInv w texts t) {id : String}
    (hne : aggregate t .outcome id ≠ []) : ∃ r ∈ aggregate t .outcome id, superseded t r = false := by
  have hnodup : ((aggregate t .outcome id).map Revision.id).Nodup :=
    t.revisions.nodup.sublist (List.filter_sublist.map Revision.id)
  obtain ⟨r, hr, hhead⟩ := (h.coherent id).head hnodup hne
  refine ⟨r, hr, ?_⟩
  unfold superseded
  rw [(ofAggregate_iff.1 (List.mem_filter.1 hr).2).2]
  by_contra hc
  rw [Bool.not_eq_false, List.contains_iff_mem] at hc
  exact hhead hc

/-- **Supersession stays coherent.**  Whatever operators record and the projection projects, targets are earlier
revisions of their outcome, nothing is superseded twice, every outcome has a head, and the vector of a run shows each of
its outcomes with exactly the unsuperseded revisions as heads (if no two identities have the same digest). -/
theorem outcome_supersession_coherent (w : SourceWire) (referenced : Referenced) (ops : List OutcomeOp) :
    let t := run (outcomeStep w) (emptyLedger referenced) ops
    (∀ r ∈ t.revisions.rows, ∀ x ∈ targets r,
      ∃ q ∈ aggregate t .outcome r.aggregateId, q.id = x ∧ q.revision < r.revision) ∧
    (∀ id, ∀ r ∈ aggregate t .outcome id, ∀ r' ∈ aggregate t .outcome id, ∀ x, x ∈ targets r → x ∈ targets r' → r = r') ∧
    (∀ id, aggregate t .outcome id ≠ [] → ∃ r ∈ aggregate t .outcome id, superseded t r = false) ∧
    (CollisionFree w.sha256 (ops.flatMap (OutcomeOp.texts w)) → ∀ run, ∃ items, outcomeVector w.toWire t run = .ok items ∧
      items.map OutcomeVectorItem.outcomeId = SortedSet.ofList ((runRevisions t run).map Revision.aggregateId) ∧
      ∀ item ∈ items, ItemSound t item) := by
  intro t
  have h : OutcomeInv w.toWire (ops.flatMap (OutcomeOp.texts w)) t :=
    outcomeRun_inv w ops (outcomeInv_empty _ _ referenced) (fun o ho x hx => List.mem_flatMap.2 ⟨o, ho, hx⟩)
  refine ⟨fun r hr x hx => ?_, fun id r hr r' hr' x hx hx' => h.once hr hr' hx hx', fun id hne => h.head hne,
    fun hfree run => h.vector hfree run⟩
  have hagg : r ∈ aggregate t .outcome r.aggregateId :=
    List.mem_filter.2 ⟨hr, ofAggregate_iff.2 ⟨(h.identified r hr).kind, rfl⟩⟩
  exact h.earlier hagg hx

/-! ## A superseded acceptance and a finding -/

def OutcomeConfidence.json : OutcomeConfidence → String
  | .authoritative    => "authoritative"
  | .operatorAsserted => "operator_asserted"

def OutcomeSourceKind.json : OutcomeSourceKind → String
  | .humanAction => "human_action"
  | .validation  => "validation"
  | .evidence    => "evidence"
  | .finding     => "finding"
  | .publication => "publication"
  | .domainEvent => "domain_event"

def outcomeText (o : OutcomeWireV1) : String :=
  "\x7b\"classification\":" ++ o.classification.json ++ ",\"code\":\"" ++ o.code ++ "\",\"confidence\":\"" ++
    o.confidence.json ++ "\",\"correction_artifact_id\":" ++ (jsonOption Json.Value.str o.correctionArtifactId).text ++
    ",\"dimension\":" ++ o.dimension.json ++ ",\"free_text_redacted\":" ++ (Json.Value.bool o.freeTextRedacted).text ++
    ",\"observed_at\":" ++ toString o.observedAt ++ ",\"outcome_id\":\"" ++ o.outcomeId ++ "\",\"reason_code\":" ++
    (jsonOption Json.Value.str o.reasonCode).text ++ ",\"redactor_version\":\"" ++ o.redactorVersion ++
    "\",\"run_id\":\"" ++ o.runId ++ "\",\"schema\":\"" ++ o.schema ++ "\",\"source\":\x7b\"kind\":\"" ++
    o.source.kind.json ++ "\",\"record_id\":\"" ++ o.source.recordId ++ "\",\"record_sha256\":\"" ++
    o.source.recordSha256 ++ "\",\"source_domain_event_id\":" ++ (jsonOption jsonInt o.source.sourceDomainEventId).text ++
    ",\"source_sha\":" ++ (jsonOption Json.Value.str o.source.sourceSha).text ++ "\x7d,\"subject\":\x7b\"id\":\"" ++
    o.subject.id ++ "\",\"kind\":" ++ o.subject.kind.json ++ "\x7d,\"supersedes\":" ++
    (Json.Value.arr (o.supersedes.map Json.Value.str)).text ++ "\x7d"

def actionText (a : ActionPayload) : String :=
  "\x7b\"classification\":" ++ a.classification.json ++ ",\"code\":\"" ++ a.code ++ "\",\"dimension\":" ++
    a.dimension.json ++ ",\"note_redacted\":" ++ (Json.Value.bool a.noteRedacted).text ++ ",\"reason_code\":" ++
    (jsonOption Json.Value.str a.reasonCode).text ++ "\x7d"

def textWire (digests : List (String × String)) : SourceWire where
  sha256 s := (digests.lookup s).getD ""
  text
    | .outcome o => outcomeText o
    | .other v   => v.text
  actionText := actionText
  eventText _ _ := "\x7b\"schema\":\"harness.outcome.v1\",\"state\":\"observed\"\x7d"
  contract _ _ := .error .json
  canonicalId _ _ := none
  wireRevision _ _ := none
  references _ _ := .ok ()
  json := Json.Value.text

def findingOutcomeId : String := "b6d5c32dcbd91e4d4618126374c0036f505f8d65315a7e79400316f12353f1e7"

def acceptedRevision : String := "outcome-revision-d8045997335de84a64d0d0b7e0707ac0ec2380c76d2dbf87ca42cbd0e22c045a"

def accepted : NewOperatorOutcome :=
  ⟨"run-1", ⟨.run, "run-1"⟩, .operatorAcceptance, .positive, "accepted_without_correction", none, none, none, [],
    "operator", "k1"⟩

def corrected : NewOperatorOutcome :=
  { accepted with code := "accepted_after_correction", supersedes := [acceptedRevision], idempotencyKey := "k2" }

def operatorPayload (i : NewOperatorOutcome) (record action : String) (now : Int) : OutcomeWireV1 :=
  ⟨"harness.outcome.v1", sampleOutcomeId, "run-1", i.subject, i.dimension, i.classification, i.code, now,
    .operatorAsserted, ⟨.humanAction, record, action, none, none⟩, i.supersedes, none, none, "outcome-redactor.v1", false⟩

def findingPayload : OutcomeWireV1 :=
  ⟨"harness.outcome.v1", findingOutcomeId, "run-1", ⟨.run, "run-1"⟩, .verifierFindings, .negative, "blocking", 3,
    .authoritative, ⟨.finding, "finding-1", "d0c6964cc41b12ef046be630270fb8a1e2c04c58f3021d2eef40372f86b01a57", none, none⟩,
    [], none, none, "outcome-redactor.v1", false⟩

def acceptedDigests : List (String × String) :=
  [("harness.outcome.id.v1\x00run-1\x00\"run\"\x00run-1\x00\"operator_acceptance\"", sampleOutcomeId),
   (actionText accepted.action, "1d28e5bc2fe434b431ef3b405780b9ab6c0c9afdc84f24ef39d5938841f32e01"),
   ("harness.outcome.replay.v1\x00k1\x00" ++ sampleOutcomeId ++ "\x00" ++ actionText accepted.action,
     "d8045997335de84a64d0d0b7e0707ac0ec2380c76d2dbf87ca42cbd0e22c045a"),
   (outcomeText (operatorPayload accepted "1" "1d28e5bc2fe434b431ef3b405780b9ab6c0c9afdc84f24ef39d5938841f32e01" 5),
     "097b65f43098c1654a3ca4e693df2f11ac60635ebaf54fbae8d1cec0482b275b"),
   (actionText corrected.action, "9158953ac9302cbe20f8fb5b890665f4a69b61fb0d6bc3cac4a5c72f7648e074"),
   ("harness.outcome.replay.v1\x00k2\x00" ++ sampleOutcomeId ++ "\x00" ++ actionText corrected.action,
     "5d259ddba7e8fc45054858022ddf5983657ae1b559f95ead835d54e3616bc470"),
   (outcomeText (operatorPayload corrected "2" "9158953ac9302cbe20f8fb5b890665f4a69b61fb0d6bc3cac4a5c72f7648e074" 9),
     "55fe5afcb69d9f8beff53b7fc1a46d560b3c9ed8f2840cb81a6651f810bee6f0"),
   ("harness.outcome.id.v1\x00run-1\x00\"run\"\x00run-1\x00\"verifier_findings\"", findingOutcomeId),
   ("finding\x00finding-1\x00high\x00open", "d0c6964cc41b12ef046be630270fb8a1e2c04c58f3021d2eef40372f86b01a57"),
   ("harness.outcome.authoritative.v1\x00mapping-v1\x00" ++ findingOutcomeId ++
     "\x00d0c6964cc41b12ef046be630270fb8a1e2c04c58f3021d2eef40372f86b01a57\x00\"negative\"\x00blocking",
     "d26fc262caca0fde546f1547bf64e0ca04db18121b044a8d654740d804233386"),
   (outcomeText findingPayload, "c74980fc47ab195cf87b23d28e40bbdf15e5e38a3630614ffd15fad5d4bf5fa5"),
   ("\x7b\"schema\":\"harness.outcome.v1\",\"state\":\"observed\"\x7d",
     "a1975692ea0bd822ce918e524c7d30ef27797b1cc0171450e21dc2e32d6d9d71"),
   ("\x7b\x7d", "44136fa355b3678a1146ad16f7e8649e94fb4fc21fe77e8310c060f61caaff8a")]

def runTables : Run.Tables :=
  ⟨["repository"], ⟨[Run.NewRun.row ⟨"run-1", "repository", "EXECUTING", "execute", none⟩ 1], List.nodup_singleton _⟩, [], 0⟩

def findingSources : Sources :=
  ⟨[], [], [⟨"finding-1", "run-1", none, some "verifier-1", "high", "open", 3⟩], runTables, [], [], [], []⟩

def acceptedRun : List OutcomeOp :=
  [.recordOutcome accepted 5, .project findingSources "run-1" (fun _ => 7), .recordOutcome corrected 9]

theorem outcome_supersession_coherent_acceptedRun :
    let t := run (outcomeStep (textWire acceptedDigests)) (emptyLedger sampleReferenced) acceptedRun
    ∃ items, outcomeVector (textWire acceptedDigests).toWire t "run-1" = .ok items ∧ ∀ item ∈ items, ItemSound t item := by
  have hfree : CollisionFree (textWire acceptedDigests).sha256
      (acceptedRun.flatMap (OutcomeOp.texts (textWire acceptedDigests))) := by
    unfold CollisionFree
    decide
  obtain ⟨items, hitems, -, hsound⟩ :=
    (outcome_supersession_coherent (textWire acceptedDigests) sampleReferenced acceptedRun).2.2.2 hfree "run-1"
  exact ⟨items, hitems, hsound⟩

end Improvement
end Bildr
