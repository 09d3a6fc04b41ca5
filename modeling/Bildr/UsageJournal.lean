import Bildr.UsageHistory
/-!
# UsageJournal — what the usage updates of one turn leave

An update of the turn is one more row of the journal, unless the journal has one under its sequence.  Apart from that only
the sample of the turn and the counted tokens move (`Heard.ingest`).
-/
namespace Bildr
namespace Session

open Json (Value)
open Usage

def storedPayload (pj : ProtocolProjection) (payload : Value) : Value := (redactReasoning pj usageMethod payload).1

def usageUpdate (c : ProjectionContext) (payload : Value) : Notification := ⟨c, usageMethod, payload⟩

def sequenceOf (payload : Value) : Option String := payload.findText ["sequence"]

def journalPayload (ps : List Value) (p : Value) : List Value :=
  if (sequenceOf p).isSome && ps.any (fun q => sequenceOf q == sequenceOf p) then ps else ps ++ [p]

section Turn
variable (pj : ProtocolProjection) (c : ProjectionContext) (thread turn : String) (known : List Value) (t₀ : Tables)

def deliveryModel : String := usageModel t₀ (usageAgent t₀ thread c.agentSessionId) turn

/-- The run and the agent exist, and the store has nothing of the turn, nor of the sequences of the known updates. -/
structure FreshTurn : Prop where
  threadGiven : ∀ p ∈ known, p.findText ["threadId"] = some thread
  turnGiven : ∀ p ∈ known, p.findText ["turnId"] = some turn
  references : referencesExist t₀ c.runId c.agentSessionId = true
  rows : usageRows t₀ thread turn = []
  sample : t₀.samples.get turn = none
  unheard : ∀ p ∈ known, ∀ seq, sequenceOf p = some seq → rawDuplicate t₀ (some thread) (some seq) = none

/-- The journal has the payloads of the turn, and only the sample of the turn and the counted tokens moved. -/
structure Heard (t : Tables) (ps : List Value) : Prop where
  rows : (usageRows t thread turn).map Prod.snd = ps
  runs : t.runs = t₀.runs
  threads : t.threads = t₀.threads
  model : usageModel t (usageAgent t thread c.agentSessionId) turn = deliveryModel c thread turn t₀
  references : referencesExist t c.runId c.agentSessionId = true
  others : ∀ k, k ≠ turn → t.samples.get k = t₀.samples.get k
  elsewhere : ∀ thread', thread' ≠ thread → usageRows t thread' turn = usageRows t₀ thread' turn
  place : ∀ s, t.samples.get turn = some s → s.threadId = thread
  heard : ∀ p ∈ known, ∀ seq, sequenceOf p = some seq →
    ((rawDuplicate t (some thread) (some seq)).isSome = true ↔ ∃ q ∈ ps, sequenceOf q = some seq)

variable {pj c thread turn known t₀}

theorem FreshTurn.heard (h : FreshTurn c thread turn known t₀) : Heard c thread turn known t₀ t₀ [] := by
  refine ⟨by rw [h.rows]; rfl, rfl, rfl, rfl, h.references, fun _ _ => rfl, fun _ _ => rfl, fun s hs => ?_,
    fun p hp seq hseq => ?_⟩
  · rw [h.sample] at hs
    cases hs
  · rw [h.unheard p hp seq hseq]
    simp

theorem Heard.append (hfresh : FreshTurn c thread turn known t₀) {t : Tables} {ps : List Value}
    (h : Heard c thread turn known t₀ t ps) {payload : Value} (hp : storedPayload pj payload ∈ known) (now : Int) :
    (∃ id, (appendRawEvent ((usageUpdate c payload).raw pj) now t).1 = .ok id) ∧
    Heard c thread turn known t₀ (appendRawEvent ((usageUpdate c payload).raw pj) now t).2
      (journalPayload ps (storedPayload pj payload)) ∧
    (appendRawEvent ((usageUpdate c payload).raw pj) now t).2.samples = t.samples := by
  have hthread : ((usageUpdate c payload).raw pj).threadId = some thread := by
    show notificationThread (storedPayload pj payload) = _
    rw [notificationThread, hfresh.threadGiven _ hp, Option.some_or]
  have hturn : ((usageUpdate c payload).raw pj).turnId = some turn := by
    show notificationTurn (storedPayload pj payload) = _
    rw [notificationTurn, hfresh.turnGiven _ hp, Option.some_or]
  have hmethod : ((usageUpdate c payload).raw pj).method = usageMethod := rfl
  have hpayload : ((usageUpdate c payload).raw pj).payload = storedPayload pj payload := rfl
  have hsequence : ((usageUpdate c payload).raw pj).sourceSequence = sequenceOf (storedPayload pj payload) := rfl
  have hrun : ((usageUpdate c payload).raw pj).runId = c.runId := rfl
  have hagent : ((usageUpdate c payload).raw pj).agentSessionId = c.agentSessionId := rfl
  generalize (usageUpdate c payload).raw pj = input at hthread hturn hmethod hpayload hsequence hrun hagent ⊢
  generalize storedPayload pj payload = p at hp hpayload hsequence ⊢
  unfold appendRawEvent
  rw [hthread, hsequence, hrun, hagent, h.references, Bool.and_true]
  cases hdup : rawDuplicate t (some thread) (sequenceOf p) with
  | some e =>
    obtain ⟨seq, hseq⟩ : ∃ seq, sequenceOf p = some seq := by
      cases hs : sequenceOf p with
      | none =>
        rw [hs] at hdup
        cases hdup
      | some seq => exact ⟨seq, rfl⟩
    obtain ⟨q, hq, hqseq⟩ := (h.heard p hp seq hseq).1 (by rw [hseq] at hdup; rw [hdup]; rfl)
    have hkeep : journalPayload ps p = ps := if_pos (by
      rw [hseq, Bool.and_eq_true, List.any_eq_true]
      exact ⟨rfl, q, hq, by rw [hqseq]; exact beq_self_eq_true _⟩)
    rw [hkeep]
    simp only [Option.isNone_some, Bool.false_eq_true, if_false, Option.isSome_some, hseq, Bool.and_self, if_true]
    exact ⟨⟨_, rfl⟩, h, trivial⟩
  | none =>
    have hlonger : journalPayload ps p = ps ++ [p] := if_neg (by
      rw [Bool.and_eq_true, List.any_eq_true]
      rintro ⟨hs, q, hq, hsame⟩
      obtain ⟨seq, hseq⟩ := Option.isSome_iff_exists.1 hs
      have hthere := (h.heard p hp seq hseq).2 ⟨q, hq, by rw [← hseq]; exact beq_iff_eq.1 hsame⟩
      rw [← hseq, hdup] at hthere
      cases hthere)
    rw [hlonger]
    simp only [Option.isNone_none, if_true]
    refine ⟨⟨_, rfl⟩, ⟨?_, h.runs, h.threads, h.model, h.references, h.others, fun thread' hne => ?_, h.place,
      fun q hq seq hseq => ?_⟩, trivial⟩
    · simp only [usageRows, Journal.append, List.filter_append, List.map_append]
      rw [List.filter_cons_of_pos (by simp [hthread, hturn, hmethod])]
      have hrows := h.rows
      simp only [usageRows] at hrows
      simp [hrows, hpayload]
    · rw [← h.elsewhere thread' hne]
      simp only [usageRows, Journal.append, List.filter_append, List.map_append]
      rw [List.filter_cons_of_neg (by simp [hthread, hne.symm])]
      simp
    · have hfind : (rawDuplicate { t with journal := t.journal.append input now } (some thread) (some seq)).isSome =
          ((rawDuplicate t (some thread) (some seq)).isSome || sequenceOf p == some seq) := by
        simp only [rawDuplicate, Journal.append, List.find?_append, Option.isSome_or, List.find?_cons, hthread, hsequence,
          beq_self_eq_true, Bool.true_and, List.find?_nil]
        cases sequenceOf p == some seq <;> rfl
      rw [hfind, Bool.or_eq_true, h.heard q hq seq hseq, beq_iff_eq]
      constructor
      · rintro (⟨r, hr, hrseq⟩ | hseq')
        · exact ⟨r, List.mem_append_left _ hr, hrseq⟩
        · exact ⟨p, List.mem_append_right _ (List.mem_singleton_self p), hseq'⟩
      · rintro ⟨r, hr, hrseq⟩
        rcases List.mem_append.1 hr with hr | hr
        · exact Or.inl ⟨r, hr, hrseq⟩
        · exact Or.inr (List.mem_singleton.1 hr ▸ hrseq)

theorem agentTokens_turn {t : Tables} {s : TokenSample} (hfresh : FreshTurn c thread turn known t₀) {ps : List Value}
    (h : Heard c thread turn known t₀ t ps) (hs : s.turnId = turn) (hthread : s.threadId = thread) (agent : String) :
    agentTokens (putSample s t) agent = agentTokens t₀ agent + sampleTokens t₀ agent s := by
  have hnone : t₀.samples.get s.turnId = none := by rw [hs]; exact hfresh.sample
  obtain ⟨u, hu⟩ := Table.insert_isSome hnone
  have hput : putSample s t₀ = { t₀ with samples := u } := by simp only [putSample, hu]
  have hsame : ∀ k, (putSample s t).samples.get k = u.get k := by
    intro k
    have hk := get_putSample (s := s) (t := t) (fun q hq => by rw [hs] at hq; rw [h.place q hq, hthread]) k
    have hk₀ := get_putSample (s := s) (t := t₀) (fun q hq => by rw [hnone] at hq; cases hq) k
    rw [hput] at hk₀
    rw [hk, hk₀]
    by_cases hkey : k = s.turnId
    · rw [if_pos hkey, if_pos hkey]
    · rw [if_neg hkey, if_neg hkey]
      exact h.others k (hs ▸ hkey)
  have hthreads : (putSample s t).threads = t₀.threads :=
    (putSample_keeps Tables.threads (fun _ _ => rfl)).trans h.threads
  rw [agentTokens_eq, agentTokens_eq, sampleTokens_congr hthreads, Table.sum_congr hsame,
    Table.sum_insert _ hu]

theorem Heard.count {t : Tables} {ps : List Value} (h : Heard c thread turn known t₀ t ps) {s : TokenSample}
    (hturn : s.turnId = turn) (hthread : s.threadId = thread) (agent : Option String) :
    Heard c thread turn known t₀ (countSample agent s t) ps ∧ (countSample agent s t).samples.get turn = some s := by
  have hget := get_putSample (s := s) (t := t) (fun q hq => by rw [hturn] at hq; rw [h.place q hq, hthread])
  have hsamples : (countSample agent s t).samples = (putSample s t).samples := countSample_samples
  have hruns : (countSample agent s t).runs = t.runs := countSample_keeps Tables.runs (fun _ _ => rfl) (fun _ _ => rfl)
  have hself : (countSample agent s t).samples.get turn = some s := by
    rw [hsamples, hget, if_pos hturn.symm]
  refine ⟨⟨?_, hruns.trans h.runs, countSample_threads.trans h.threads, ?_, ?_, fun k hk => ?_, fun thread' hne => ?_,
    fun q hq => ?_, fun p hp seq hseq => ?_⟩, hself⟩
  · rw [usageRows_congr countSample_journal]
    exact h.rows
  · rw [countSample_model, usageAgent, countSample_threads]
    exact h.model
  · have href := h.references
    unfold referencesExist at href ⊢
    rw [hruns]
    simp only [countSample_agents]
    exact href
  · rw [hsamples, hget, if_neg (by rw [hturn]; exact hk)]
    exact h.others k hk
  · rw [usageRows_congr countSample_journal]
    exact h.elsewhere thread' hne
  · rw [hself] at hq
    cases hq
    exact hthread
  · have hdup : rawDuplicate (countSample agent s t) = rawDuplicate t := by
      funext a b
      unfold rawDuplicate
      rw [countSample_journal]
    rw [hdup]
    exact h.heard p hp seq hseq

theorem Heard.congr {t t' : Tables} {ps : List Value} (h : Heard c thread turn known t₀ t ps)
    (hsame : (t'.runs, t'.agents, t'.threads, t'.turns, t'.journal, t'.samples) =
      (t.runs, t.agents, t.threads, t.turns, t.journal, t.samples)) : Heard c thread turn known t₀ t' ps := by
  simp only [Prod.mk.injEq] at hsame
  obtain ⟨hruns, hagents, hthreads, hturns, hjournal, hsamples⟩ := hsame
  refine ⟨?_, hruns.trans h.runs, hthreads.trans h.threads, ?_, ?_, fun k hk => ?_, fun thread' hne => ?_,
    fun q hq => ?_, fun p hp seq hseq => ?_⟩
  · rw [usageRows_congr hjournal]
    exact h.rows
  · have hmodel := h.model
    unfold usageModel usageAgent at hmodel ⊢
    rw [hthreads, hagents, hturns]
    exact hmodel
  · have href := h.references
    unfold referencesExist at href ⊢
    rw [hruns, hagents]
    exact href
  · rw [hsamples]
    exact h.others k hk
  · rw [usageRows_congr hjournal]
    exact h.elsewhere thread' hne
  · rw [hsamples] at hq
    exact h.place q hq
  · have hdup : rawDuplicate t' = rawDuplicate t := by
      funext a b
      unfold rawDuplicate
      rw [hjournal]
    rw [hdup]
    exact h.heard p hp seq hseq

/-! ## One update -/

theorem emitDomainEvent_ok {e : DomainEvent} {t : Tables} (h : e.runId.all t.runs.contains = true) :
    (emitDomainEvent e t).1 = .ok () := by
  unfold emitDomainEvent
  cases hany : t.domainEvents.any (sameEvent e) with
  | true =>
    refine congrArg Prod.fst (commit_ok (?_ : _ = Except.ok t))
    rw [hany, if_pos rfl]
  | false =>
    refine congrArg Prod.fst (commit_ok (?_ : _ = Except.ok { t with domainEvents := t.domainEvents ++ [e] }))
    rw [hany, if_neg Bool.false_ne_true, h]
    rfl

theorem FreshTurn.project (hfresh : FreshTurn c thread turn known t₀) {payload : Value}
    (hp : storedPayload pj payload ∈ known) (id : Nat) (t : Tables) :
    Session.project pj c usageMethod id (storedPayload pj payload) t =
      rebuildTurnUsage pj thread turn id c.agentSessionId t := by
  have hof : Method.of usageMethod = .tokenUsageUpdated := by decide
  simp only [Session.project, hof, projectUsage, hfresh.threadGiven _ hp, hfresh.turnGiven _ hp]

/-- **One update**: where the updates of the turn give a sample that fits, it is ingested, and the turn has the sample. -/
theorem Heard.ingest (hfresh : FreshTurn c thread turn known t₀) {t : Tables} {ps : List Value}
    (h : Heard c thread turn known t₀ t ps) {payload : Value} (hp : storedPayload pj payload ∈ known) {now : Int}
    {s : Option TokenSample}
    (hled : ledgerSample pj (deliveryModel c thread turn t₀) thread turn
      (usageRows (appendRawEvent ((usageUpdate c payload).raw pj) now t).2 thread turn) = .ok s)
    (hfits : ∀ r, s = some r → ∀ agent, agentTokens t₀ agent + sampleTokens t₀ agent r ≤ i64Max) :
    (ingestNotification pj (usageUpdate c payload) now t).1.isOk = true ∧
    Heard c thread turn known t₀ (ingestNotification pj (usageUpdate c payload) now t).2
      (journalPayload ps (storedPayload pj payload)) ∧
    (ingestNotification pj (usageUpdate c payload) now t).2.samples.get turn = s.or (t.samples.get turn) := by
  obtain ⟨⟨id, hok⟩, h₁, hsamples⟩ := h.append hfresh hp now
  have hview := ingest_projects (fun t : Tables => (t.runs, t.agents, t.threads, t.turns, t.journal, t.samples))
    (fun _ _ => rfl) (fun _ _ => rfl) hok
  -- the projection succeeds, and leaves the sample
  have hproject : ∃ u, project pj c usageMethod id (storedPayload pj payload)
      (appendRawEvent ((usageUpdate c payload).raw pj) now t).2 = (.ok (), u) ∧
      Heard c thread turn known t₀ u (journalPayload ps (storedPayload pj payload)) ∧
      u.samples.get turn = s.or (t.samples.get turn) := by
    rw [hfresh.project hp]
    cases s with
    | none =>
      rw [rebuildTurnUsage_none (by rw [h₁.model]; exact hled) id]
      exact ⟨_, rfl, h₁, by rw [hsamples, Option.none_or]⟩
    | some r =>
      obtain ⟨_, -, -, hr, -, -⟩ := ledgerSample_some hled 0
      have hrturn : r.turnId = turn := by rw [hr]; rfl
      have hrthread : r.threadId = thread := by rw [hr]; rfl
      have hfits' : ∀ agent, agentTokens (putSample r (appendRawEvent ((usageUpdate c payload).raw pj) now t).2) agent ≤
          i64Max := by
        intro agent
        rw [agentTokens_turn hfresh h₁ hrturn hrthread agent]
        exact hfits r rfl agent
      rw [rebuildTurnUsage_some (by rw [h₁.model]; exact hled) hfits' id]
      obtain ⟨hcount, hself⟩ := h₁.count hrturn hrthread (usageAgent
        (appendRawEvent ((usageUpdate c payload).raw pj) now t).2 thread c.agentSessionId)
      exact ⟨_, rfl, hcount, hself⟩
  obtain ⟨u, hu, hheard, hsample⟩ := hproject
  have hpayload : (redactReasoning pj (usageUpdate c payload).method (usageUpdate c payload).payload).1 =
      storedPayload pj payload := rfl
  have hmethod : (usageUpdate c payload).method = usageMethod := rfl
  have hcontext : (usageUpdate c payload).context = c := rfl
  rw [hpayload, hmethod, hcontext, hu] at hview
  refine ⟨?_, hheard.congr hview, ?_⟩
  · have hemit : ((emitDomainEvent ((usageUpdate c payload).event (notificationThread (storedPayload pj payload))
        (storedPayload pj payload) id)).andThen (fun _ => Call.ret id)
        { u with checkpoint := some (max (u.checkpoint.getD 0) id) }).1.isOk = true := by
      have href := hheard.references
      unfold referencesExist at href
      rw [Bool.and_eq_true] at href
      rw [andThen_ok (emitDomainEvent_ok href.1)]
      rfl
    have htransient : isTransientStreamDelta usageMethod = false := by decide
    unfold ingestNotification
    rw [andThen_ok hok, hpayload, hmethod, hcontext, andThen_ok (by rw [hu]), hu, andThen_ok rfl, htransient, if_neg Bool.false_ne_true]
    exact hemit
  · simp only [Prod.mk.injEq] at hview
    rw [hview.2.2.2.2.2]
    exact hsample

theorem rebuildTurnUsage_ok {thread turn : String} {source : Nat} {fallback : Option String} {t : Tables}
    (h : (rebuildTurnUsage pj thread turn source fallback t).1 = .ok ()) :
    ∃ s, ledgerSample pj (usageModel t (usageAgent t thread fallback) turn) thread turn (usageRows t thread turn) = .ok s ∧
      ∀ r, s = some r → ∀ agent, usageAgent t thread fallback = some agent → agentTokens (putSample r t) agent ≤ i64Max := by
  unfold rebuildTurnUsage at h
  unfold ledgerSample
  dsimp only at h
  generalize usageModel t (usageAgent t thread fallback) turn = model at h ⊢
  cases hp : summarizeTurn (pj.pricing model) source (usageRows t thread turn) with
  | error e =>
    simp only [hp] at h
    cases h
  | ok p =>
    simp only [hp] at h
    by_cases hzero : p.summary.totalTokens = 0
    · obtain ⟨p', hp', hzero'⟩ := summarizeTurn_zero hp hzero 0
      refine ⟨none, ?_, fun r hr => by cases hr⟩
      rw [hp', ok_bind, if_pos hzero']
      rfl
    · rw [if_neg hzero] at h
      rw [(summarizeTurn_counted hp hzero 0).1, ok_bind, if_neg hzero]
      unfold writeSample at h
      rcases commit_cases _ t with ⟨e, hb, ht⟩ | ⟨t', hb, -⟩
      · rw [ht] at h
        cases h
      · obtain ⟨_, haccepted, hb⟩ := bind_ok hb
        refine ⟨some (turnSample (pj.pricing model) thread turn model p), ?_, fun r hr agent hagent => ?_⟩
        · rw [haccepted]
          rfl
        · cases hr
          rw [hagent] at hb
          obtain ⟨_, hfits, -⟩ := bind_ok hb
          exact of_decide_eq_true (ensure_ok hfits)

theorem writeSample_cases (agent : Option String) (s : TokenSample) (t : Tables) :
    (writeSample agent s t).2 = t ∨ (writeSample agent s t).2 = countSample agent s t := by
  unfold writeSample
  refine commit_after (P := fun u => u = t ∨ u = countSample agent s t) (Or.inl rfl) (fun u hu => ?_)
  obtain ⟨_, -, hu⟩ := bind_ok hu
  cases agent with
  | none =>
    cases hu
    exact Or.inr rfl
  | some agent =>
    obtain ⟨_, -, hu⟩ := bind_ok hu
    cases hu
    exact Or.inr rfl

theorem rebuildTurnUsage_cases (pj : ProtocolProjection) (thread turn : String) (source : Nat) (fallback : Option String)
    (t : Tables) : (rebuildTurnUsage pj thread turn source fallback t).2 = t ∨
      ∃ agent s, s.turnId = turn ∧ s.threadId = thread ∧
        (rebuildTurnUsage pj thread turn source fallback t).2 = countSample agent s t := by
  unfold rebuildTurnUsage
  dsimp only
  split
  · exact Or.inl rfl
  · split
    · exact Or.inl rfl
    · rename_i p _ _
      generalize hsample : turnSample (pj.pricing (usageModel t (usageAgent t thread fallback) turn)) thread turn
        (usageModel t (usageAgent t thread fallback) turn) p = s
      have hturn : s.turnId = turn := by rw [← hsample]; rfl
      have hthread : s.threadId = thread := by rw [← hsample]; rfl
      refine (writeSample_cases (usageAgent t thread fallback) s t).imp (fun h => h) (fun h => ?_)
      exact ⟨_, s, hturn, hthread, h⟩

theorem Heard.ingested (hfresh : FreshTurn c thread turn known t₀) {t : Tables} {ps : List Value}
    (h : Heard c thread turn known t₀ t ps) {payload : Value} (hp : storedPayload pj payload ∈ known) (now : Int) :
    Heard c thread turn known t₀ (ingestNotification pj (usageUpdate c payload) now t).2
      (journalPayload ps (storedPayload pj payload)) := by
  obtain ⟨⟨id, hok⟩, h₁, -⟩ := h.append hfresh hp now
  have hview := ingest_projects (fun t : Tables => (t.runs, t.agents, t.threads, t.turns, t.journal, t.samples))
    (fun _ _ => rfl) (fun _ _ => rfl) hok
  have hproject := hfresh.project hp id (appendRawEvent ((usageUpdate c payload).raw pj) now t).2
  have hpayload : (redactReasoning pj (usageUpdate c payload).method (usageUpdate c payload).payload).1 =
      storedPayload pj payload := rfl
  have hmethod : (usageUpdate c payload).method = usageMethod := rfl
  have hcontext : (usageUpdate c payload).context = c := rfl
  rw [hpayload, hmethod, hcontext, hproject] at hview
  refine Heard.congr ?_ hview
  rcases rebuildTurnUsage_cases pj thread turn id c.agentSessionId
    (appendRawEvent ((usageUpdate c payload).raw pj) now t).2 with hsame | ⟨agent, s, hturn, hthread, hcount⟩
  · rw [hsame]
    exact h₁
  · rw [hcount]
    exact (h₁.count hturn hthread agent).1

end Turn

end Session
end Bildr
