import Bildr.UsageLedger
/-!
# UsageHistory — histories after which a rebuild loses nothing

Notifications and sweeps keep a ledger counted when they neither take usage updates away nor move a turn with usage to
another agent or another model, and when the usage updates themselves can be counted the way a rebuild counts them
(`KeepsUsage`).  Along such a history a rebuild loses nothing at any point (`usage_rebuild_lossless`); one sweep of old
usage updates is enough to lose a sample.
-/
namespace Bildr
namespace Session

open Json (Value)
open Trace
open Usage

/-! ## What the other notifications leave -/

def usageView (t : Tables) : Journal × Table CodexThread.threadId × Table TokenSample.turnId ×
    (String → Option (String × Option String × Option Int)) × (String → Option String) :=
  (t.journal, t.threads, t.samples, accounts t, turnRoute t)

theorem Counted.of_view {pj : ProtocolProjection} {t t' : Tables} (h : Counted pj t) (hv : usageView t' = usageView t) :
    Counted pj t' := by
  simp only [usageView, Prod.mk.injEq] at hv
  obtain ⟨hj, hth, hs, ha, hr⟩ := hv
  refine h.of_routes (usageRows_congr hj) hs (goalTokens_of_accounts ha) (fun thread turn _ => ?_)
  rw [turnModel, turnModel, owner_congr hth, usageModel_congr ha hr]
  exact ⟨rfl, rfl⟩

theorem accounts_updateAgent {t : Tables} {id : String} {f : AgentSession → AgentSession} {hf}
    (h : ∀ a, (f a).account = a.account) : accounts (updateAgent t id f hf) = accounts t := by
  funext k
  simp only [accounts, updateAgent, Table.get_update, Option.map_map]
  refine congrArg (fun g => Option.map g (t.agents.get k)) (funext (fun a => ?_))
  simp only [Function.comp]
  split
  · exact h a
  · rfl

theorem usageView_updateAgent {t : Tables} {id : String} {f : AgentSession → AgentSession} {hf}
    (h : ∀ a, (f a).account = a.account) : usageView (updateAgent t id f hf) = usageView t := by
  rw [usageView, accounts_updateAgent h]
  rfl

theorem usageView_updateTurns {t : Tables} {p : CodexTurn → Bool} {f : CodexTurn → CodexTurn} {hf}
    (h : ∀ q, (f q).effectiveModel = q.effectiveModel) :
    usageView { t with turns := t.turns.update p f hf } = usageView t := by
  refine congrArg (fun r => (t.journal, t.threads, t.samples, accounts t, r)) (funext (fun turn => ?_))
  simp only [turnRoute, Table.get_update]
  cases t.turns.get turn with
  | none => rfl
  | some q =>
    simp only [Option.map_some, Option.bind_some]
    split
    · exact h q
    · rfl

theorem usageView_startTurn {t t' : Tables} {thread turn : String} {model effort : Option String}
    (h : startTurn t thread turn model effort = .ok t') : usageView t' = usageView t := by
  unfold startTurn at h
  cases hg : t.turns.get turn with
  | some q =>
    rw [hg] at h
    cases h
    exact usageView_updateTurns (fun _ => rfl)
  | none =>
    rw [hg] at h
    obtain ⟨_, -, h⟩ := bind_ok h
    obtain ⟨u, hu, h⟩ := bind_ok h
    cases h
    refine congrArg (fun r => (t.journal, t.threads, t.samples, accounts t, r)) (funext (fun k => ?_))
    -- the new turn has no route, as no turn had
    simp only [turnRoute, Table.get_insert (insertRow_ok hu)]
    split
    · rename_i hk
      rw [hk, hg]
      rfl
    · rfl

theorem usageView_noteActivity (thread : String) (summary : Option String) (t : Tables) :
    usageView (noteActivity thread summary t).2 = usageView t := by
  unfold noteActivity
  split
  · rfl
  · split
    · rfl
    · split
      · refine commit_keeps usageView (fun t' h => ?_)
        obtain ⟨_, -, h⟩ := bind_ok h
        cases h
        exact usageView_updateAgent (fun _ => rfl)
      · rfl

theorem usageView_upsertItem (i : ProjectedItem) (state : String) (t : Tables) :
    usageView (upsertItem i state t) = usageView t := by
  obtain ⟨u, hu, -⟩ := upsertItem_eq i state t
  rw [hu]
  rfl

theorem usageView_projectItem (completed : Bool) (rawId : Nat) (payload : Value) (t : Tables) :
    usageView (projectItem completed rawId payload t).2 = usageView t := by
  unfold projectItem
  split
  · rfl
  · split
    · rfl
    · exact (usageView_noteActivity _ _ _).trans (usageView_upsertItem _ _ t)

theorem usageView_projectTurnStarted (c : ProjectionContext) (payload : Value) (t : Tables) :
    usageView (projectTurnStarted c payload t).2 = usageView t := by
  unfold projectTurnStarted
  cases c.agentSessionId with
  | none => rfl
  | some agent =>
    cases payload.findText ["threadId"] with
    | none => rfl
    | some thread =>
      cases payload.findText ["turn", "id"] with
      | none => rfl
      | some turn =>
        refine commit_keeps usageView (fun t' h => ?_)
        obtain ⟨t₁, hstart, h⟩ := bind_ok h
        cases h
        refine (usageView_updateAgent ?_).trans (usageView_startTurn hstart)
        exact fun _ => rfl

theorem usageView_completeTurn (turn status : String) (error : Option Value) (t : Tables) :
    usageView (completeTurn turn status error t) = usageView t := usageView_updateTurns (fun _ => rfl)

theorem usageView_projectTurnCompleted (c : ProjectionContext) (payload : Value) (t : Tables) :
    usageView (projectTurnCompleted c payload t).2 = usageView t := by
  unfold projectTurnCompleted
  split
  · rfl
  · split
    · exact usageView_completeTurn _ _ _ t
    · refine (usageView_updateAgent ?_).trans (usageView_completeTurn _ _ _ t)
      exact fun _ => rfl

theorem usageView_project (pj : ProtocolProjection) (c : ProjectionContext) (method : String) (rawId : Nat) (payload : Value)
    (t : Tables) (h₁ : Method.of method ≠ .threadStarted) (h₂ : Method.of method ≠ .modelRerouted)
    (h₃ : Method.of method ≠ .tokenUsageUpdated) :
    usageView (project pj c method rawId payload t).2 = usageView t := by
  unfold project
  cases hm : Method.of method with
  | threadStarted => exact absurd hm h₁
  | modelRerouted => exact absurd hm h₂
  | tokenUsageUpdated => exact absurd hm h₃
  | turnStarted => exact usageView_projectTurnStarted c payload t
  | turnCompleted => exact usageView_projectTurnCompleted c payload t
  | itemStarted => exact usageView_projectItem false rawId payload t
  | itemCompleted => exact usageView_projectItem true rawId payload t
  | planUpdated =>
    simp only [projectPlan]
    split
    · rfl
    · exact usageView_upsertItem _ _ t
  | goalUpdated =>
    simp only [projectGoal]
    split
    · rfl
    · exact usageView_updateAgent (fun _ => rfl)
  | goalCleared =>
    simp only [clearGoal]
    split
    · rfl
    · exact usageView_updateAgent (fun _ => rfl)
  | other => rfl

/-! ## Started threads and rerouted models -/

theorem projectThreadStarted_eq (c : ProjectionContext) (payload : Value) (t : Tables) :
    ∃ threads, (projectThreadStarted c payload t).2 = { t with threads := threads } := by
  unfold projectThreadStarted
  cases c.agentSessionId with
  | none => exact ⟨t.threads, rfl⟩
  | some agent =>
    cases payload.findText ["thread", "id"] with
    | none => exact ⟨t.threads, rfl⟩
    | some thread =>
      simp only [attachCodexThread]
      rcases commit_cases _ t with ⟨e, -, ht⟩ | ⟨t', hb, ht⟩
      · exact ⟨t.threads, by rw [ht]⟩
      · rw [ht]
        obtain ⟨_, -, hb⟩ := bind_ok hb
        split at hb
        · cases hb
          exact ⟨_, rfl⟩
        · obtain ⟨threads, -, hb⟩ := bind_ok hb
          cases hb
          exact ⟨threads, rfl⟩

def ledgerView (t : Tables) : Journal × Table TokenSample.turnId × (String → Option (Option Int)) :=
  (t.journal, t.samples, goalTokens t)

theorem ledgerView_projectModelReroute (c : ProjectionContext) (payload : Value) (t : Tables) :
    ledgerView (projectModelReroute c payload t).2 = ledgerView t := by
  have hturn : ∀ t, ledgerView (rerouteTurn payload t).2 = ledgerView t := by
    intro t
    unfold rerouteTurn
    split <;> rfl
  unfold projectModelReroute
  cases c.agentSessionId with
  | none => exact hturn t
  | some agent =>
    refine (andThen_keeps ledgerView (fun _ => hturn _)).trans (commit_keeps ledgerView (fun t' h => ?_))
    obtain ⟨_, -, h⟩ := bind_ok h
    cases h
    refine congrArg (fun g => (t.journal, t.samples, g)) (funext (fun id => ?_))
    simp only [goalTokens, updateAgent, Table.get_update, Option.map_map]
    refine congrArg (fun g => Option.map g (t.agents.get id)) (funext (fun a => ?_))
    simp only [Function.comp]
    split <;> rfl

/-! ## The journal -/

theorem appendRawEvent_eq (input : RawEventInput) (now : Int) (t : Tables) :
    ∃ j, (appendRawEvent input now t).2 = { t with journal := j } := by
  unfold appendRawEvent
  split
  · exact ⟨_, rfl⟩
  · split <;> exact ⟨t.journal, rfl⟩

theorem usageRows_appendRawEvent {input : RawEventInput} {thread turn : String}
    (h : ¬ (input.threadId = some thread ∧ input.turnId = some turn ∧ input.method = usageMethod)) (now : Int)
    (t : Tables) : usageRows (appendRawEvent input now t).2 thread turn = usageRows t thread turn := by
  unfold appendRawEvent
  split
  · simp only [usageRows, Journal.append, List.filter_append, List.map_append]
    have hskip : (input.threadId == some thread && input.turnId == some turn && input.method == usageMethod) = false := by
      rw [Bool.eq_false_iff]
      intro hb
      simp only [Bool.and_eq_true, beq_iff_eq] at hb
      exact h ⟨hb.1.1, hb.1.2, hb.2⟩
    rw [List.filter_cons_of_neg (by simpa using hskip)]
    simp
  · split <;> rfl

theorem usageRows_appendRawEvent_grow (input : RawEventInput) (now : Int) (t : Tables) (thread turn : String) :
    ∃ rows, usageRows (appendRawEvent input now t).2 thread turn = usageRows t thread turn ++ rows := by
  unfold appendRawEvent
  split
  · simp only [usageRows, Journal.append, List.filter_append, List.map_append]
    exact ⟨_, rfl⟩
  · split <;> exact ⟨[], (List.append_nil _).symm⟩

theorem RoutesKept.of_journal (t : Tables) (j : Journal) : RoutesKept t { t with journal := j } :=
  fun _ _ _ => ⟨rfl, rfl⟩

theorem Counted.append {pj : ProtocolProjection} {t : Tables} (h : Counted pj t) {input : RawEventInput} {now : Int}
    (hrows : ∀ thread turn, ¬ (input.threadId = some thread ∧ input.turnId = some turn ∧ input.method = usageMethod)) :
    Counted pj (appendRawEvent input now t).2 := by
  have husage : usageRows (appendRawEvent input now t).2 = usageRows t := by
    funext thread turn
    exact usageRows_appendRawEvent (hrows thread turn) now t
  obtain ⟨j, hj⟩ := appendRawEvent_eq input now t
  rw [hj] at husage ⊢
  exact h.of_routes husage rfl rfl (RoutesKept.of_journal t j)

/-! ## Usage updates -/

/-- The usage update of a turn is counted now as a rebuild counts it: its thread and turn are given at the top of the
payload, the model is the one of the agent the thread belongs to, the turn has no usage on another thread, its updates can
be priced and stored, and no sum of tokens overflows.  `t₁` has the update in its journal. -/
structure CountedAsRebuilt (pj : ProtocolProjection) (t t₁ : Tables) (c : ProjectionContext) (payload : Value)
    (thread turn : String) : Prop where
  threadGiven : payload.findText ["threadId"] = some thread
  turnGiven : payload.findText ["turnId"] = some turn
  model : usageModel t (usageAgent t thread c.agentSessionId) turn = turnModel t thread turn
  single : ∀ thread', usageRows t thread' turn ≠ [] → thread' = thread
  sample : ∃ s, ledgerSample pj (turnModel t thread turn) thread turn (usageRows t₁ thread turn) = .ok s ∧
    ∀ r, s = some r → ∀ agent, agentTokens (putSample r t) agent ≤ i64Max

theorem Counted.extend {pj : ProtocolProjection} {t t' : Tables} (h : Counted pj t) {thread turn : String}
    {s : Option TokenSample}
    (hrows : ∀ th tu, ¬ (th = thread ∧ tu = turn) → usageRows t' th tu = usageRows t th tu)
    (hmodel : turnModel t' = turnModel t) (hsingle : ∀ thread', usageRows t thread' turn ≠ [] → thread' = thread)
    (hled : ledgerSample pj (turnModel t thread turn) thread turn (usageRows t' thread turn) = .ok s)
    (hsamples : ∀ k, t'.samples.get k = if k = turn then s else t.samples.get k)
    (htokens : ∀ a ∈ t'.agents.rows, a.goalTokensUsed.getD 0 = agentTokens t' a.id)
    (hfits : ∀ agent, agentTokens t' agent ≤ i64Max) : Counted pj t' := by
  -- the turn has usage under its thread only
  have hthread : ∀ th, usageRows t' th turn ≠ [] → th = thread := by
    intro th hne
    by_cases hth : th = thread
    · exact hth
    · rw [hrows th turn (fun hk => hth hk.1)] at hne
      exact hsingle th hne
  have hother : ∀ th tu, tu ≠ turn → usageRows t' th tu = usageRows t th tu :=
    fun th tu htu => hrows th tu (fun hk => htu hk.2)
  refine ⟨?_, ?_, ?_, htokens, hfits⟩
  · intro th tu hne
    rw [hmodel, hsamples]
    by_cases htu : tu = turn
    · subst htu
      obtain rfl := hthread th hne
      rw [if_pos rfl]
      exact hled
    · rw [hother th tu htu] at hne ⊢
      rw [if_neg htu]
      exact h.samples th tu hne
  · intro th th' tu hne hne'
    by_cases htu : tu = turn
    · subst htu
      rw [hthread th hne, hthread th' hne']
    · rw [hother _ _ htu] at hne hne'
      exact h.single th th' tu hne hne'
  · intro r hr
    have hget := Table.get_of_mem hr
    rw [hsamples] at hget
    by_cases htu : r.turnId = turn
    · rw [if_pos htu] at hget
      rw [hget] at hled
      obtain ⟨p, -, -, hsample, -, hmem⟩ := ledgerSample_some hled 0
      have hth : r.threadId = thread := by rw [hsample]; rfl
      rw [hth, htu]
      intro hnil
      rw [hnil] at hmem
      cases hmem
    · rw [if_neg htu] at hget
      rw [hother _ _ htu]
      exact h.backed r (Table.mem_of_get hget)

theorem agentTokens_putSample_journal (r : TokenSample) (t : Tables) (j : Journal) :
    agentTokens (putSample r { t with journal := j }) = agentTokens (putSample r t) := by
  unfold putSample
  cases t.samples.insert r <;> rfl

theorem usageAgent_of_owner {t : Tables} {thread id : String} (h : owner t thread = some id) (fallback : Option String) :
    usageAgent t thread fallback = some id := by
  rw [owner, usageAgent, Option.or_none] at h
  rw [usageAgent, h, Option.some_or]

theorem CountedAsRebuilt.rows_other {pj : ProtocolProjection} {t t₁ : Tables} {n : Notification} {payload : Value}
    {thread turn : String} (hc : CountedAsRebuilt pj t t₁ n.context payload thread turn)
    (hpayload : (redactReasoning pj n.method n.payload).1 = payload) (now : Int) {th tu : String}
    (hne : ¬ (th = thread ∧ tu = turn)) :
    usageRows (appendRawEvent (n.raw pj) now t).2 th tu = usageRows t th tu := by
  have hthread : (n.raw pj).threadId = some thread := by
    show notificationThread (redactReasoning pj n.method n.payload).1 = some thread
    rw [hpayload, notificationThread, hc.threadGiven, Option.some_or]
  have hturn : (n.raw pj).turnId = some turn := by
    show notificationTurn (redactReasoning pj n.method n.payload).1 = some turn
    rw [hpayload, notificationTurn, hc.turnGiven, Option.some_or]
  refine usageRows_appendRawEvent (fun hk => hne ?_) now t
  rw [hthread, hturn] at hk
  exact ⟨(Option.some.inj hk.1).symm, (Option.some.inj hk.2.1).symm⟩

theorem Counted.sample_thread {pj : ProtocolProjection} {t : Tables} (h : Counted pj t) {thread turn : String}
    (hsingle : ∀ thread', usageRows t thread' turn ≠ [] → thread' = thread) {q : TokenSample}
    (hq : t.samples.get turn = some q) : q.threadId = thread := by
  have hback := h.backed q (Table.mem_of_get hq)
  rw [Table.key_of_get hq] at hback
  exact hsingle _ hback

theorem Counted.sample_none {pj : ProtocolProjection} {t : Tables} (h : Counted pj t) {thread turn : String}
    (hsingle : ∀ thread', usageRows t thread' turn ≠ [] → thread' = thread) {rows : List (Nat × Value)}
    (hled : ledgerSample pj (turnModel t thread turn) thread turn (usageRows t thread turn ++ rows) = .ok none) :
    t.samples.get turn = none := by
  by_cases hold : usageRows t thread turn = []
  · cases hq : t.samples.get turn with
    | none => rfl
    | some q =>
      have hback := h.backed q (Table.mem_of_get hq)
      rw [Table.key_of_get hq, h.sample_thread hsingle hq] at hback
      exact absurd hold hback
  · exact ledgerSample_append_none (h.samples thread turn hold) hled

theorem Counted.usage {pj : ProtocolProjection} {t : Tables} (h : Counted pj t) {n : Notification} {now : Int}
    {thread turn : String} {payload : Value} (hpayload : (redactReasoning pj n.method n.payload).1 = payload)
    (hc : CountedAsRebuilt pj t (appendRawEvent (n.raw pj) now t).2 n.context payload thread turn)
    (source : Nat) :
    Counted pj (rebuildTurnUsage pj thread turn source n.context.agentSessionId (appendRawEvent (n.raw pj) now t).2).2 := by
  obtain ⟨s, hled, hfits⟩ := hc.sample
  obtain ⟨rows, hgrow⟩ := usageRows_appendRawEvent_grow (n.raw pj) now t thread turn
  have hrows : ∀ th tu, ¬ (th = thread ∧ tu = turn) →
      usageRows (appendRawEvent (n.raw pj) now t).2 th tu = usageRows t th tu :=
    fun _ _ hne => hc.rows_other hpayload now hne
  obtain ⟨j, hj⟩ := appendRawEvent_eq (n.raw pj) now t
  rw [hj] at hled hgrow hrows ⊢
  have hled' : ledgerSample pj (usageModel { t with journal := j }
      (usageAgent { t with journal := j } thread n.context.agentSessionId) turn) thread turn
      (usageRows { t with journal := j } thread turn) = .ok s := by
    rw [← hled, ← hc.model]
    rfl
  cases s with
  | none =>
    rw [rebuildTurnUsage_none hled' source]
    refine h.extend hrows rfl hc.single hled (fun k => ?_) h.tokens h.fits
    show t.samples.get k = _
    by_cases hk : k = turn
    · rw [hgrow] at hled
      rw [if_pos hk, hk, h.sample_none hc.single hled]
    · rw [if_neg hk]
  | some r =>
    obtain ⟨_, -, -, hsample, -, -⟩ := ledgerSample_some hled source
    have hrturn : r.turnId = turn := by rw [hsample]; rfl
    have hrthread : r.threadId = thread := by rw [hsample]; rfl
    have hplace : ∀ q, t.samples.get r.turnId = some q → q.threadId = r.threadId := by
      rw [hrturn, hrthread]
      exact fun q hq => h.sample_thread hc.single hq
    have hfits' : ∀ agent, agentTokens (putSample r { t with journal := j }) agent ≤ i64Max := by
      intro agent
      rw [agentTokens_putSample_journal]
      exact hfits r rfl agent
    rw [rebuildTurnUsage_some hled' hfits' source]
    refine h.extend (s := some r) ?_ ?_ hc.single ?_ ?_ ?_ ?_
    · intro th tu hne
      rw [usageRows_congr countSample_journal]
      exact hrows th tu hne
    · funext th tu
      rw [turnModel, turnModel, owner_congr countSample_threads, countSample_model]
      rfl
    · rw [usageRows_congr countSample_journal]
      exact hled
    · intro k
      rw [countSample_samples, get_putSample (t := { t with journal := j }) hplace, hrturn]
    · refine countSample_tokens (R := fun o m => o.getD 0 = m) (fun _ => rfl) hplace ?_ h.tokens
      intro id hid
      rw [hrthread] at hid
      exact usageAgent_of_owner hid _
    · intro agent
      rw [agentTokens_countSample]
      exact hfits' agent

/-! ## Sweeps -/

theorem Journal.id_inj (j : Journal) {e e' : RawEvent} (he : e ∈ j.events) (he' : e' ∈ j.events) (h : e.id = e'.id) :
    e = e' :=
  List.inj_on_of_nodup_map (j.increasing.imp Nat.ne_of_lt) he he' h

def SparesUsage (t : Tables) (rawEventDays : Nat) (now : Int) : Prop :=
  rawEventDays ≠ 0 → ∀ e ∈ t.journal.events, (usageKey e).isSome = true → retentionCutoff rawEventDays now ≤ e.receivedAt

theorem usageKey_isSome {e : RawEvent} {thread turn : String}
    (h : (e.threadId == some thread && e.turnId == some turn && e.method == usageMethod) = true) :
    (usageKey e).isSome = true := by
  simp only [Bool.and_eq_true, beq_iff_eq] at h
  rw [(usageKey_iff e thread turn e.id).2 ⟨h.1.1, h.1.2, h.2, rfl⟩]
  rfl

theorem Counted.source {pj : ProtocolProjection} {t : Tables} (h : Counted pj t) {s : TokenSample}
    (hs : s ∈ t.samples.rows) : ∃ e ∈ t.journal.events, (usageKey e).isSome = true ∧ s.sourceEventId = some e.id := by
  have hled := h.samples _ _ (h.backed s hs)
  rw [Table.get_of_mem hs] at hled
  obtain ⟨p, -, -, hsample, -, hmem⟩ := ledgerSample_some hled 0
  have hsource : s.sourceEventId = some p.lastSource := by rw [hsample]; rfl
  obtain ⟨row, hrow, hid⟩ := List.mem_map.1 hmem
  obtain ⟨e, he, rfl⟩ := List.mem_map.1 hrow
  obtain ⟨he, hm⟩ := List.mem_filter.1 he
  exact ⟨e, he, usageKey_isSome hm, by rw [hsource, ← hid]⟩

theorem Counted.sweep {pj : ProtocolProjection} {t : Tables} (h : Counted pj t) {days : Nat} {now : Int}
    (hspare : SparesUsage t days now) : Counted pj (sweepRetention days now t).2 := by
  unfold sweepRetention
  by_cases hdays : days = 0
  · rw [if_pos hdays]
    exact h
  rw [if_neg hdays]
  have hspared := hspare hdays
  refine h.of_routes ?_ ?_ rfl (fun _ _ _ => ⟨rfl, rfl⟩)
  · funext thread turn
    simp only [usageRows, Journal.keep, List.filter_filter]
    refine congrArg (List.map _) (List.filter_congr (fun e he => ?_))
    by_cases hm : (e.threadId == some thread && e.turnId == some turn && e.method == usageMethod) = true
    · have hcut := hspared e he (usageKey_isSome hm)
      rw [hm]
      simpa using hcut
    · rw [Bool.not_eq_true] at hm
      rw [hm, Bool.false_and]
  · refine Table.ext_rows ((List.map_congr_left (fun s hs => ?_)).trans (List.map_id _))
    obtain ⟨e, he, hkey, hsource⟩ := h.source hs
    have hkept : clearSource ((t.journal.events.filter
        (fun e => decide (e.receivedAt < retentionCutoff days now))).map RawEvent.id) s.sourceEventId = s.sourceEventId := by
      rw [hsource, clearSource, Option.filter_some_pos]
      rw [Bool.not_eq_true', Bool.eq_false_iff, ne_eq, List.contains_iff_mem, List.mem_map]
      rintro ⟨e', he', hsame⟩
      obtain ⟨he', hold⟩ := List.mem_filter.1 he'
      obtain rfl := t.journal.id_inj he' he hsame
      have hcut := hspared e' he hkey
      simp only [decide_eq_true_eq] at hold
      omega
    simp only [if_true, hkept]
    rfl

/-! ## Histories -/

inductive UsageOp
  | ingest (n : Notification) (now : Int)
  | sweep (rawEventDays : Nat) (now : Int)
  | rebuild

def usageStep (pj : ProtocolProjection) (t : Tables) : UsageOp → Tables
  | .ingest n now => (ingestNotification pj n now t).2
  | .sweep days now => (sweepRetention days now t).2
  | .rebuild => (rebuildUsageProjectionIfNeeded pj t).2

/-- A notification leaves the ledger a rebuild would write.  Notifications the journal refuses and those that reach neither
threads, models nor usage always do. -/
def NotificationKeeps (pj : ProtocolProjection) (t : Tables) (n : Notification) (now : Int) : Prop :=
  let t₁ := (appendRawEvent (n.raw pj) now t).2
  let payload := (redactReasoning pj n.method n.payload).1
  match Method.of n.method with
  | .threadStarted => RoutesKept t₁ (projectThreadStarted n.context payload t₁).2
  | .modelRerouted => RoutesKept t₁ (projectModelReroute n.context payload t₁).2
  | .tokenUsageUpdated => ∀ thread turn, notificationThread payload = some thread → notificationTurn payload = some turn →
      CountedAsRebuilt pj t t₁ n.context payload thread turn
  | _ => True

def KeepsUsage (pj : ProtocolProjection) (t : Tables) : UsageOp → Prop
  | .ingest n now => ∀ id, (appendRawEvent (n.raw pj) now t).1 = .ok id → NotificationKeeps pj t n now
  | .sweep days now => SparesUsage t days now
  | .rebuild => True

structure NoUsage (t : Tables) : Prop where
  journal : t.journal.events.filterMap usageKey = []
  samples : t.samples.rows = []
  tokens : ∀ a ∈ t.agents.rows, a.goalTokensUsed.getD 0 = 0

theorem NoUsage.counted {t : Tables} (h : NoUsage t) (pj : ProtocolProjection) : Counted pj t := by
  have hrows : ∀ thread turn, ¬ usageRows t thread turn ≠ [] := by
    intro thread turn hne
    obtain ⟨id, hmem⟩ := (usageRows_ne_nil t thread turn).1 hne
    rw [h.journal] at hmem
    cases hmem
  have htokens : ∀ agent, agentTokens t agent = 0 := by
    intro agent
    rw [agentTokens_eq, Table.sum, h.samples]
    rfl
  refine ⟨fun th tu hne => absurd hne (hrows th tu), fun th _ tu hne _ => absurd hne (hrows th tu), ?_, ?_, ?_⟩
  · intro s hs
    rw [h.samples] at hs
    cases hs
  · intro a ha
    rw [htokens, h.tokens a ha]
  · intro agent
    rw [htokens]
    decide

theorem appendRawEvent_error {input : RawEventInput} {now : Int} {t : Tables} {e : StoreError}
    (h : (appendRawEvent input now t).1 = .error e) : (appendRawEvent input now t).2 = t := by
  unfold appendRawEvent at h ⊢
  split at h
  · cases h
  · rename_i hnew
    rw [if_neg hnew]
    split <;> rfl

theorem Counted.append_other {pj : ProtocolProjection} {t : Tables} (h : Counted pj t) {n : Notification} {now : Int}
    (hm : Method.of n.method ≠ .tokenUsageUpdated) : Counted pj (appendRawEvent (n.raw pj) now t).2 := by
  refine h.append (fun thread turn hk => hm ?_)
  have hmethod : n.method = usageMethod := hk.2.2
  rw [hmethod]
  decide

theorem Counted.project {pj : ProtocolProjection} {t : Tables} (h : Counted pj t) {n : Notification} {now : Int}
    (hkeep : NotificationKeeps pj t n now) (id : Nat) :
    Counted pj (Session.project pj n.context n.method id (redactReasoning pj n.method n.payload).1
      (appendRawEvent (n.raw pj) now t).2).2 := by
  generalize hpayload : (redactReasoning pj n.method n.payload).1 = payload
  have hraw : (n.raw pj).threadId = notificationThread payload ∧ (n.raw pj).turnId = notificationTurn payload := by
    rw [← hpayload]
    exact ⟨rfl, rfl⟩
  unfold NotificationKeeps at hkeep
  rw [hpayload] at hkeep
  by_cases husage : Method.of n.method = .tokenUsageUpdated
  · simp only [husage] at hkeep
    simp only [Session.project, husage, projectUsage]
    -- without a thread or a turn at the top nothing is projected, so the journal must have nothing to count either
    have hskip : (payload.findText ["threadId"] = none ∨ payload.findText ["turnId"] = none) →
        Counted pj (appendRawEvent (n.raw pj) now t).2 := by
      intro hnone
      refine h.append (fun thread turn hk => ?_)
      have hc := hkeep thread turn (hraw.1 ▸ hk.1) (hraw.2 ▸ hk.2.1)
      rcases hnone with hnone | hnone
      · rw [hc.threadGiven] at hnone
        cases hnone
      · rw [hc.turnGiven] at hnone
        cases hnone
    cases hth : payload.findText ["threadId"] with
    | none => exact hskip (Or.inl hth)
    | some thread =>
      cases htu : payload.findText ["turnId"] with
      | none => exact hskip (Or.inr htu)
      | some turn =>
        refine h.usage hpayload (hkeep thread turn ?_ ?_) id
        · rw [notificationThread, hth, Option.some_or]
        · rw [notificationTurn, htu, Option.some_or]
  · have h₁ : Counted pj (appendRawEvent (n.raw pj) now t).2 := h.append_other husage
    by_cases hthread : Method.of n.method = .threadStarted
    · simp only [hthread] at hkeep
      simp only [Session.project, hthread]
      obtain ⟨threads, hth⟩ := projectThreadStarted_eq n.context payload (appendRawEvent (n.raw pj) now t).2
      rw [hth] at hkeep ⊢
      exact h₁.of_routes rfl rfl rfl hkeep
    · by_cases hroute : Method.of n.method = .modelRerouted
      · simp only [hroute] at hkeep
        simp only [Session.project, hroute]
        have hview := ledgerView_projectModelReroute n.context payload (appendRawEvent (n.raw pj) now t).2
        simp only [ledgerView, Prod.mk.injEq] at hview
        exact h₁.of_routes (usageRows_congr hview.1) hview.2.1 hview.2.2 hkeep
      · exact h₁.of_view (usageView_project pj n.context n.method id payload _ hthread hroute husage)

theorem Counted.ingest {pj : ProtocolProjection} {t : Tables} (h : Counted pj t) {n : Notification} {now : Int}
    (hkeep : KeepsUsage pj t (.ingest n now)) : Counted pj (ingestNotification pj n now t).2 := by
  cases happ : (appendRawEvent (n.raw pj) now t).1 with
  | error e =>
    rw [ingest_refused happ, appendRawEvent_error happ]
    exact h
  | ok id =>
    exact (h.project (hkeep id happ) id).of_view (ingest_projects usageView (fun _ _ => rfl) (fun _ _ => rfl) happ)

/-! ## The version of the ledger -/

theorem projectionCurrent_congr {t t' : Tables} (h : t'.metadata = t.metadata) :
    projectionCurrent t' = projectionCurrent t := by
  rw [projectionCurrent, projectionCurrent, h]

theorem metadata_ingest (pj : ProtocolProjection) (n : Notification) (now : Int) (t : Tables) :
    (ingestNotification pj n now t).2.metadata = t.metadata := by
  obtain ⟨j, hj⟩ := appendRawEvent_eq (n.raw pj) now t
  cases happ : (appendRawEvent (n.raw pj) now t).1 with
  | error e => rw [ingest_refused happ, hj]
  | ok id =>
    refine (ingest_projects Tables.metadata (fun _ _ => rfl) (fun _ _ => rfl) happ).trans ?_
    refine (congrArg (fun l => l.2.2.2) (logs_project pj n.context n.method id _ _)).trans ?_
    rw [hj]
    rfl

theorem projectionCurrent_step {pj : ProtocolProjection} {t : Tables} (h : projectionCurrent t = true) (op : UsageOp) :
    projectionCurrent (usageStep pj t op) = true := by
  cases op with
  | ingest n now =>
    rw [← h]
    exact projectionCurrent_congr (metadata_ingest pj n now t)
  | sweep days now =>
    simp only [usageStep, sweepRetention]
    split
    · exact h
    · rw [← h]
      rfl
  | rebuild =>
    have heq : rebuildUsageProjectionIfNeeded pj t = (.ok (), t) := if_pos h
    simp only [usageStep, heq]
    exact h

def LedgerSound (pj : ProtocolProjection) (t : Tables) : Prop := projectionCurrent t = true ∨ Counted pj t

theorem LedgerSound.lossless {pj : ProtocolProjection} {t : Tables} (h : LedgerSound pj t) : Lossless pj t := by
  rcases h with hcur | hc
  · exact lossless_of_current pj hcur
  · exact hc.lossless

theorem LedgerSound.step {pj : ProtocolProjection} (t : Tables) (op : UsageOp) (h : LedgerSound pj t)
    (hop : projectionCurrent t = true ∨ KeepsUsage pj t op) : LedgerSound pj (usageStep pj t op) := by
  cases hcur : projectionCurrent t with
  | true => exact Or.inl (projectionCurrent_step hcur op)
  | false =>
    have hc : Counted pj t := h.resolve_left (by simp [hcur])
    have hkeep : KeepsUsage pj t op := hop.resolve_left (by simp [hcur])
    cases op with
    | ingest n now => exact Or.inr (hc.ingest hkeep)
    | sweep days now => exact Or.inr (hc.sweep hkeep)
    | rebuild =>
      obtain ⟨u, metadata, heq, hget, -⟩ := hc.rebuild hcur
      refine Or.inl ?_
      simp only [usageStep, heq, projectionCurrent, hget]
      rfl

/-- **A rebuild loses nothing** after any history of notifications, sweeps and rebuilds whose steps, as long as the ledger
is not of the present version, keep the usage. -/
theorem usage_rebuild_lossless (pj : ProtocolProjection) (t₀ : Tables) (ops : List UsageOp) (h₀ : NoUsage t₀)
    (hops : Along (usageStep pj) (fun t op => projectionCurrent t = true ∨ KeepsUsage pj t op) t₀ ops) :
    Lossless pj (run (usageStep pj) t₀ ops) :=
  (invariant_of_step (LedgerSound pj) LedgerSound.step (Or.inr (h₀.counted pj)) hops).lossless

/-! ## Usage that is swept -/

def usageNotice : Notification :=
  ⟨⟨some "run", some "agent"⟩, "thread/tokenUsage/updated",
    .obj [("sequence", .str "1"), ("threadId", .str "thread"),
      ("tokenUsage", .obj [
        ("last", .obj [("inputTokens", .num (.pos 10)), ("outputTokens", .num (.pos 5)), ("totalTokens", .num (.pos 15))]),
        ("total", .obj [("totalTokens", .num (.pos 15))])]),
      ("turnId", .str "turn")]⟩

def noticeSample : TokenSample := ⟨"turn", "thread", "model", 10, 0, none, 5, 0, 15, none, some 1, none⟩

theorem completedAgent_noUsage : NoUsage completedAgent := ⟨rfl, rfl, by decide⟩

theorem usageNotice_counted : CountedAsRebuilt noRedaction completedAgent
    (appendRawEvent (usageNotice.raw noRedaction) 0 completedAgent).2 usageNotice.context usageNotice.payload "thread"
    "turn" := by
  refine ⟨by decide, by decide, by decide, fun thread' h => absurd rfl h, some noticeSample,
    by decide, fun r hr agent => ?_⟩
  cases hr
  have hrows : (putSample noticeSample completedAgent).samples.rows = [noticeSample] := rfl
  rw [agentTokens_eq, Table.sum, hrows, List.map_singleton, List.sum_singleton, sampleTokens]
  split
  · decide
  · decide

/-- A sweep that spares the update and a rebuild after it lose nothing. -/
theorem usage_rebuild_lossless_spared :
    Lossless noRedaction (run (usageStep noRedaction) completedAgent [.ingest usageNotice 0, .sweep 1 86400000]) := by
  refine usage_rebuild_lossless noRedaction completedAgent _ completedAgent_noUsage ⟨Or.inr ?_, Or.inr ?_, trivial⟩
  · intro id _ thread turn hthread hturn
    have hth : notificationThread usageNotice.payload = some "thread" := by decide
    have htu : notificationTurn usageNotice.payload = some "turn" := by decide
    cases hth.symm.trans hthread
    cases htu.symm.trans hturn
    exact usageNotice_counted
  · show SparesUsage _ 1 86400000
    unfold SparesUsage
    decide

/-- **A sweep of the update loses its sample at the next rebuild.** -/
theorem swept_usage_lost :
    NoUsage completedAgent ∧
      ¬ Lossless noRedaction (run (usageStep noRedaction) completedAgent [.ingest usageNotice 0, .sweep 1 86400001]) := by
  refine ⟨completedAgent_noUsage, fun h => ?_⟩
  have hsample := h.2.1 "turn"
  revert hsample
  decide

end Session
end Bildr
