import Bildr.Column
import Bildr.ProjectionReplay
import Bildr.UsageRebuild
/-!
# UsageLedger — when a rebuild of the usage loses nothing

The ledger is counted (`Counted`) when the sample of every turn is the one the journalled updates of the turn give under
the model the turn has now, and the tokens of every agent are the ones of its samples.  A rebuild of a counted ledger
writes what is there (`Counted.lossless`).
-/
namespace Bildr
namespace Session

open Json (Value)
open Usage

/-! ## What the journal says about a turn -/

def owner (t : Tables) (thread : String) : Option String := usageAgent t thread none

def turnModel (t : Tables) (thread turn : String) : String := usageModel t (owner t thread) turn

/-- The sample usage updates give under a model; none when they count no tokens. -/
def ledgerSample (pj : ProtocolProjection) (model thread turn : String) (rows : List (Nat × Value)) :
    Except StoreError (Option TokenSample) := do
  let p ← summarizeTurn (pj.pricing model) 0 rows
  if p.summary.totalTokens = 0 then return none
  else do
    require (turnSample (pj.pricing model) thread turn model p).accepted
    return some (turnSample (pj.pricing model) thread turn model p)

structure Counted (pj : ProtocolProjection) (t : Tables) : Prop where
  samples : ∀ thread turn, usageRows t thread turn ≠ [] →
    ledgerSample pj (turnModel t thread turn) thread turn (usageRows t thread turn) = .ok (t.samples.get turn)
  single : ∀ thread thread' turn, usageRows t thread turn ≠ [] → usageRows t thread' turn ≠ [] → thread = thread'
  backed : ∀ s ∈ t.samples.rows, usageRows t s.threadId s.turnId ≠ []
  tokens : ∀ a ∈ t.agents.rows, a.goalTokensUsed.getD 0 = agentTokens t a.id
  fits : ∀ agent, agentTokens t agent ≤ i64Max

/-! ## One turn -/

theorem ledgerSample_none {pj : ProtocolProjection} {model thread turn : String} {rows : List (Nat × Value)}
    (h : ledgerSample pj model thread turn rows = .ok none) (source : Nat) :
    ∃ p, summarizeTurn (pj.pricing model) source rows = .ok p ∧ p.summary.totalTokens = 0 := by
  obtain ⟨p, hp, h⟩ := bind_ok h
  by_cases hzero : p.summary.totalTokens = 0
  · exact summarizeTurn_zero hp hzero source
  · rw [if_neg hzero] at h
    obtain ⟨_, -, h⟩ := bind_ok h
    cases h

theorem ledgerSample_some {pj : ProtocolProjection} {model thread turn : String} {rows : List (Nat × Value)}
    {s : TokenSample} (h : ledgerSample pj model thread turn rows = .ok (some s)) (source : Nat) :
    ∃ p, summarizeTurn (pj.pricing model) source rows = .ok p ∧ p.summary.totalTokens ≠ 0 ∧
      s = turnSample (pj.pricing model) thread turn model p ∧ s.accepted = true ∧ p.lastSource ∈ rows.map Prod.fst := by
  obtain ⟨p, hp, h⟩ := bind_ok h
  by_cases hzero : p.summary.totalTokens = 0
  · rw [if_pos hzero] at h
    cases h
  · rw [if_neg hzero] at h
    obtain ⟨_, hacc, h⟩ := bind_ok h
    cases h
    obtain ⟨hp', hmem⟩ := summarizeTurn_counted hp hzero source
    exact ⟨p, hp', hzero, rfl, require_ok hacc, hmem⟩

theorem ledgerSample_append_none {pj : ProtocolProjection} {model thread turn : String} {rows rows' : List (Nat × Value)}
    {s : Option TokenSample} (h : ledgerSample pj model thread turn rows = .ok s)
    (h' : ledgerSample pj model thread turn (rows ++ rows') = .ok none) : s = none := by
  obtain ⟨q, hq, hzero⟩ := ledgerSample_none h' 0
  obtain ⟨p, hp, h⟩ := bind_ok h
  rw [if_pos (summarizeTurn_append_zero hp hq hzero)] at h
  cases h
  rfl

/-- The sample is written and the tokens of the agent it is counted for are summed up again. -/
def countSample (agent : Option String) (s : TokenSample) (t : Tables) : Tables :=
  match agent with
  | some id => updateAgent (putSample s t) id (fun a => { a with goalTokensUsed := some (agentTokens (putSample s t) id) })
      (fun _ => rfl)
  | none => putSample s t

theorem rebuildTurnUsage_none {pj : ProtocolProjection} {thread turn : String} {t : Tables} {fallback : Option String}
    (h : ledgerSample pj (usageModel t (usageAgent t thread fallback) turn) thread turn (usageRows t thread turn) = .ok none)
    (source : Nat) : rebuildTurnUsage pj thread turn source fallback t = (.ok (), t) := by
  obtain ⟨p, hp, hzero⟩ := ledgerSample_none h source
  simp only [rebuildTurnUsage, hp, hzero, if_true]

theorem rebuildTurnUsage_some {pj : ProtocolProjection} {thread turn : String} {t : Tables} {fallback : Option String}
    {s : TokenSample}
    (h : ledgerSample pj (usageModel t (usageAgent t thread fallback) turn) thread turn (usageRows t thread turn) =
      .ok (some s)) (hfits : ∀ agent, agentTokens (putSample s t) agent ≤ i64Max) (source : Nat) :
    rebuildTurnUsage pj thread turn source fallback t =
      (.ok (), countSample (usageAgent t thread fallback) s t) := by
  obtain ⟨p, hp, hzero, hs, hacc, -⟩ := ledgerSample_some h source
  simp only [rebuildTurnUsage, hp, hzero, if_false, ← hs]
  refine commit_ok ?_
  rw [hacc]
  cases usageAgent t thread fallback with
  | none => rfl
  | some id =>
    simp only [require, ensure_true, ok_bind, countGoalTokens, hfits id, decide_true, pure_ok]
    rfl

/-! ## The tokens of an agent -/

def sampleTokens (t : Tables) (agent : String) (s : TokenSample) : Int :=
  if owner t s.threadId = some agent then s.totalTokens else 0

theorem agentTokens_eq (t : Tables) (agent : String) : agentTokens t agent = t.samples.sum (sampleTokens t agent) := by
  have hjoin := Table.sum_join t.threads (fun q => q.agentSessionId == agent) TokenSample.threadId TokenSample.totalTokens
    t.samples.rows
  refine hjoin.trans (congrArg List.sum (List.map_congr_left (fun s _ => ?_)))
  unfold sampleTokens owner usageAgent
  cases t.threads.get s.threadId with
  | none => simp
  | some q => simp

theorem get_putSample {s : TokenSample} {t : Tables} (h : ∀ q, t.samples.get s.turnId = some q → q.threadId = s.threadId)
    (turn : String) : (putSample s t).samples.get turn = if turn = s.turnId then some s else t.samples.get turn := by
  unfold putSample
  cases hi : t.samples.insert s with
  | some u => exact Table.get_insert hi turn
  | none =>
    obtain ⟨q, hq⟩ := Option.isSome_iff_exists.1 (Table.insert_none.1 hi)
    have hkey : q.turnId = s.turnId := Table.key_of_get hq
    simp only [Table.get_update]
    by_cases hturn : turn = s.turnId
    · rw [if_pos hturn, hturn, hq]
      simp [hkey, h q hq]
    · rw [if_neg hturn]
      cases hg : t.samples.get turn with
      | none => rfl
      | some r =>
        have hr : r.turnId ≠ s.turnId := by
          rw [Table.key_of_get hg]
          exact hturn
        simp [hr]

theorem agentTokens_putSample {s : TokenSample} {t : Tables}
    (h : ∀ q, t.samples.get s.turnId = some q → q.threadId = s.threadId) {agent : String}
    (hother : owner t s.threadId ≠ some agent) : agentTokens (putSample s t) agent = agentTokens t agent := by
  have hzero : ∀ q : TokenSample, q.threadId = s.threadId → sampleTokens t agent q = 0 := by
    intro q hq
    rw [sampleTokens, hq, if_neg hother]
  rw [agentTokens_eq, agentTokens_eq]
  unfold putSample
  cases hi : t.samples.insert s with
  | some u =>
    show u.sum (sampleTokens t agent) = _
    rw [Table.sum_insert _ hi, hzero s rfl, Int.add_zero]
  | none =>
    show Table.sum (sampleTokens t agent)
      (t.samples.update _ (fun q => { s with turnId := q.turnId, threadId := q.threadId }) (fun _ => rfl)) = _
    refine Table.sum_update (sampleTokens t agent) t.samples _ _ _ (fun q hq hp => ?_)
    have hkey : q.turnId = s.turnId := by simpa using hp
    have hthread : q.threadId = s.threadId := h q (hkey ▸ Table.get_of_mem hq)
    rw [hzero q hthread]
    exact hzero _ hthread

/-! ## What recording a sample leaves -/

section Record
variable {agent : Option String} {s : TokenSample} {t : Tables}

theorem countSample_samples : (countSample agent s t).samples = (putSample s t).samples := by
  unfold countSample
  split <;> rfl

theorem putSample_keeps {γ : Type} (g : Tables → γ) (hs : ∀ t u, g { t with samples := u } = g t) :
    g (putSample s t) = g t := by
  obtain ⟨u, hu, -⟩ := putSample_eq s t
  rw [hu]
  exact hs t u

theorem countSample_keeps {γ : Type} (g : Tables → γ) (hs : ∀ t u, g { t with samples := u } = g t)
    (ha : ∀ t u, g { t with agents := u } = g t) : g (countSample agent s t) = g t := by
  unfold countSample
  split
  · exact (ha _ _).trans (putSample_keeps g hs)
  · exact putSample_keeps g hs

theorem countSample_journal : (countSample agent s t).journal = t.journal :=
  countSample_keeps Tables.journal (fun _ _ => rfl) (fun _ _ => rfl)

theorem countSample_threads : (countSample agent s t).threads = t.threads :=
  countSample_keeps Tables.threads (fun _ _ => rfl) (fun _ _ => rfl)

theorem countSample_agents (id : String) :
    ((countSample agent s t).agents.get id).isSome = (t.agents.get id).isSome := by
  obtain ⟨u, hu, -⟩ := putSample_eq s t
  unfold countSample
  rw [hu]
  split
  · simp only [updateAgent, Table.get_update, Option.isSome_map]
  · rfl

theorem countSample_model (id : Option String) (turn : String) :
    usageModel (countSample agent s t) id turn = usageModel t id turn := by
  obtain ⟨u, hu, -⟩ := putSample_eq s t
  cases agent with
  | none =>
    simp only [countSample, hu]
    rfl
  | some agent =>
    simp only [countSample, hu, usageModel, updateAgent]
    cases id with
    | none => rfl
    | some id =>
      simp only [Option.bind_some, Table.get_update]
      cases t.agents.get id with
      | none => rfl
      | some a =>
        simp only [Option.map_some]
        split <;> rfl

theorem owner_congr {t t' : Tables} (h : t'.threads = t.threads) : owner t' = owner t := by
  funext thread
  rw [owner, owner, usageAgent, usageAgent, h]

theorem agentTokens_congr {t t' : Tables} (hth : t'.threads = t.threads) (hs : t'.samples = t.samples) :
    agentTokens t' = agentTokens t := by
  funext agent
  rw [agentTokens, agentTokens, hth, hs]

theorem sampleTokens_congr {t t' : Tables} (h : t'.threads = t.threads) : sampleTokens t' = sampleTokens t := by
  funext agent s
  rw [sampleTokens, sampleTokens, owner_congr h]

theorem usageRows_congr {t t' : Tables} (h : t'.journal = t.journal) : usageRows t' = usageRows t := by
  funext thread turn
  rw [usageRows, usageRows, h]

theorem agentTokens_countSample : agentTokens (countSample agent s t) = agentTokens (putSample s t) := by
  have hthreads : (putSample s t).threads = t.threads := putSample_keeps Tables.threads (fun _ _ => rfl)
  exact agentTokens_congr (countSample_threads.trans hthreads.symm) countSample_samples

theorem countSample_tokens {R : Option Int → Int → Prop} (hR : ∀ n, R (some n) n)
    (h : ∀ q, t.samples.get s.turnId = some q → q.threadId = s.threadId)
    (howner : ∀ id, owner t s.threadId = some id → agent = some id)
    (htokens : ∀ a ∈ t.agents.rows, R a.goalTokensUsed (agentTokens t a.id)) :
    ∀ a ∈ (countSample agent s t).agents.rows, R a.goalTokensUsed (agentTokens (countSample agent s t) a.id) := by
  have hagents : (putSample s t).agents = t.agents := putSample_keeps Tables.agents (fun _ _ => rfl)
  -- an agent that is not counted for does not own the thread
  have hkeep : ∀ a ∈ t.agents.rows, agent ≠ some a.id → R a.goalTokensUsed (agentTokens (putSample s t) a.id) := by
    intro a ha hne
    rw [agentTokens_putSample h (fun ho => hne (howner a.id ho))]
    exact htokens a ha
  intro a ha
  rw [agentTokens_countSample]
  cases agent with
  | none =>
    simp only [countSample, hagents] at ha
    exact hkeep a ha (by simp)
  | some id =>
    simp only [countSample, updateAgent, hagents, Table.mem_update] at ha
    obtain ⟨q, hq, rfl⟩ := ha
    by_cases hid : q.id = id
    · simp only [hid, beq_self_eq_true, if_true]
      exact hR _
    · simp only [hid, beq_iff_eq, if_false]
      exact hkeep q hq (by simpa using Ne.symm hid)

end Record

/-! ## What the ledger depends on -/

def AgentSession.account (a : AgentSession) : String × Option String × Option Int :=
  (a.requestedModel, a.effectiveModel, a.goalTokensUsed)

def accounts (t : Tables) (id : String) : Option (String × Option String × Option Int) :=
  (t.agents.get id).map AgentSession.account

def turnRoute (t : Tables) (turn : String) : Option String := (t.turns.get turn).bind CodexTurn.effectiveModel

def goalTokens (t : Tables) (id : String) : Option (Option Int) := (t.agents.get id).map AgentSession.goalTokensUsed

theorem usageModel_eq (t : Tables) (agent : Option String) (turn : String) :
    usageModel t agent turn =
      ((agent.bind (accounts t)).map (fun a => ((turnRoute t turn).or a.2.1).getD a.1)).getD "unknown" := by
  unfold usageModel accounts turnRoute
  cases agent with
  | none => rfl
  | some id =>
    simp only [Option.bind_some]
    cases t.agents.get id <;> rfl

theorem usageModel_congr {t t' : Tables} (ha : accounts t' = accounts t) (hr : turnRoute t' = turnRoute t) :
    usageModel t' = usageModel t := by
  funext agent turn
  rw [usageModel_eq, usageModel_eq, ha, hr]

theorem goalTokens_of_accounts {t t' : Tables} (h : accounts t' = accounts t) : goalTokens t' = goalTokens t := by
  funext id
  have hid := congrArg (Option.map (fun a : String × Option String × Option Int => a.2.2)) (congrFun h id)
  simp only [accounts, Option.map_map] at hid
  exact hid

def RoutesKept (t t' : Tables) : Prop :=
  ∀ thread turn, usageRows t thread turn ≠ [] →
    owner t' thread = owner t thread ∧ turnModel t' thread turn = turnModel t thread turn

theorem Counted.of_routes {pj : ProtocolProjection} {t t' : Tables} (h : Counted pj t) (hrows : usageRows t' = usageRows t)
    (hsamples : t'.samples = t.samples) (hgoals : goalTokens t' = goalTokens t) (hroutes : RoutesKept t t') :
    Counted pj t' := by
  have htokens : agentTokens t' = agentTokens t := by
    funext agent
    rw [agentTokens_eq, agentTokens_eq, hsamples]
    refine Table.sum_congr_fun (fun s hs => ?_)
    rw [sampleTokens, sampleTokens, (hroutes s.threadId s.turnId (h.backed s hs)).1]
  refine ⟨?_, ?_, ?_, ?_, ?_⟩
  · intro thread turn hne
    rw [hrows] at hne ⊢
    rw [(hroutes thread turn hne).2, hsamples]
    exact h.samples thread turn hne
  · rw [hrows]
    exact h.single
  · rw [hsamples, hrows]
    exact h.backed
  · intro a ha
    have hgoal := congrFun hgoals a.id
    rw [goalTokens, goalTokens, Table.get_of_mem ha] at hgoal
    obtain ⟨b, hb, heq⟩ := Option.map_eq_some_iff.1 hgoal.symm
    have hid : b.id = a.id := Table.key_of_get hb
    rw [htokens, ← heq, ← hid]
    exact h.tokens b (Table.mem_of_get hb)
  · rw [htokens]
    exact h.fits

/-! ## A rebuild of a counted ledger -/

/-- What the rebuild has written when it has counted the turns in `done`. -/
structure Rebuilding (t u : Tables) (done : String → Prop) : Prop where
  journal : u.journal = t.journal
  threads : u.threads = t.threads
  model : usageModel u = usageModel t
  written : ∀ turn, done turn → u.samples.get turn = t.samples.get turn
  missing : ∀ turn, ¬ done turn → u.samples.get turn = none
  agents : ∀ id, (u.agents.get id).isSome = (t.agents.get id).isSome
  tokens : ∀ a ∈ u.agents.rows, a.goalTokensUsed = some (agentTokens u a.id)

theorem Rebuilding.mem {t u : Tables} {done : String → Prop} (h : Rebuilding t u done) {s : TokenSample}
    (hs : s ∈ u.samples.rows) : s ∈ t.samples.rows := by
  have hget := Table.get_of_mem hs
  by_cases hd : done s.turnId
  · rw [h.written _ hd] at hget
    exact Table.mem_of_get hget
  · rw [h.missing _ hd] at hget
    cases hget

theorem clearUsage_rebuilding (t : Tables) : Rebuilding t (clearUsage t) (fun _ => False) := by
  refine ⟨rfl, rfl, ?_, fun _ h => h.elim, fun _ _ => rfl, fun id => ?_, ?_⟩
  · funext agent turn
    unfold usageModel clearUsage
    cases agent with
    | none => rfl
    | some id =>
      simp only [Option.bind_some, Table.get_update]
      cases t.agents.get id <;> rfl
  · simp only [clearUsage, Table.get_update, Option.isSome_map]
  · intro a ha
    have hzero : agentTokens (clearUsage t) a.id = 0 := by
      rw [agentTokens_eq]
      rfl
    simp only [clearUsage, Table.mem_update, if_true] at ha
    obtain ⟨q, -, rfl⟩ := ha
    rw [hzero]

theorem Counted.total_nonneg {pj : ProtocolProjection} {t : Tables} (h : Counted pj t) {s : TokenSample}
    (hs : s ∈ t.samples.rows) : 0 ≤ s.totalTokens := by
  have hled := h.samples _ _ (h.backed s hs)
  rw [Table.get_of_mem hs] at hled
  obtain ⟨_, -, -, -, hacc, -⟩ := ledgerSample_some hled 0
  simp only [TokenSample.accepted, Bool.and_eq_true, decide_eq_true_eq] at hacc
  exact hacc.1.1.2

theorem Counted.agentTokens_le {pj : ProtocolProjection} {t u : Tables} (h : Counted pj t) (hth : u.threads = t.threads)
    (hsub : ∀ r ∈ u.samples.rows, r ∈ t.samples.rows) (agent : String) : agentTokens u agent ≤ agentTokens t agent := by
  rw [agentTokens_eq, agentTokens_eq, sampleTokens_congr hth]
  refine Table.sum_le_of_subset _ hsub (fun r hr => ?_)
  unfold sampleTokens
  split
  · exact h.total_nonneg hr
  · exact Int.le_refl 0

theorem rebuildTurnUsage_rebuilding {pj : ProtocolProjection} {t u : Tables} {done : String → Prop} (hc : Counted pj t)
    (h : Rebuilding t u done) {thread turn : String} (hrows : usageRows t thread turn ≠ []) (source : Nat) :
    ∃ u', rebuildTurnUsage pj thread turn source none u = (.ok (), u') ∧
      Rebuilding t u' (fun k => done k ∨ k = turn) := by
  have hled : ledgerSample pj (usageModel u (usageAgent u thread none) turn) thread turn (usageRows u thread turn) =
      .ok (t.samples.get turn) := by
    have howner := congrFun (owner_congr h.threads) thread
    rw [owner] at howner
    rw [howner, h.model, usageRows_congr h.journal]
    exact hc.samples thread turn hrows
  cases hs : t.samples.get turn with
  | none =>
    rw [hs] at hled
    refine ⟨u, rebuildTurnUsage_none hled source, h.journal, h.threads, h.model, ?_, ?_, h.agents, h.tokens⟩
    · rintro k (hk | rfl)
      · exact h.written k hk
      · by_cases hd : done k
        · exact h.written k hd
        · rw [h.missing k hd, hs]
    · intro k hk
      exact h.missing k (fun hd => hk (Or.inl hd))
  | some s =>
    rw [hs] at hled
    obtain ⟨_, -, -, hsample, -, -⟩ := ledgerSample_some hled source
    have hturn : s.turnId = turn := by rw [hsample]; rfl
    have hthread : s.threadId = thread := by rw [hsample]; rfl
    have hplace : ∀ q, u.samples.get s.turnId = some q → q.threadId = s.threadId := by
      intro q hq
      have hqt := Table.get_of_mem (h.mem (Table.mem_of_get hq))
      rw [Table.key_of_get hq, hturn, hs] at hqt
      cases hqt
      rfl
    have hget := get_putSample hplace
    -- what is written so far is part of the ledger, so it fits as the ledger does
    have hsub : ∀ r ∈ (putSample s u).samples.rows, r ∈ t.samples.rows := by
      intro r hr
      have hr' := Table.get_of_mem hr
      rw [hget] at hr'
      split at hr'
      · cases hr'
        exact Table.mem_of_get hs
      · exact h.mem (Table.mem_of_get hr')
    have hfits : ∀ agent, agentTokens (putSample s u) agent ≤ i64Max := by
      have hthreads : (putSample s u).threads = t.threads :=
        (putSample_keeps Tables.threads (fun _ _ => rfl)).trans h.threads
      exact fun agent => Int.le_trans (hc.agentTokens_le hthreads hsub agent) (hc.fits agent)
    refine ⟨_, rebuildTurnUsage_some hled hfits source, ?_, ?_, ?_, ?_, ?_, ?_, ?_⟩
    · exact countSample_journal.trans h.journal
    · exact countSample_threads.trans h.threads
    · funext id k
      rw [countSample_model, h.model]
    · intro k hk
      rw [countSample_samples, hget, hturn]
      by_cases hkt : k = turn
      · rw [if_pos hkt, hkt, hs]
      · rw [if_neg hkt]
        exact h.written k (hk.resolve_right hkt)
    · intro k hk
      rw [countSample_samples, hget, hturn, if_neg (fun hkt => hk (Or.inr hkt))]
      exact h.missing k (fun hd => hk (Or.inl hd))
    · intro id
      rw [countSample_agents]
      exact h.agents id
    · refine countSample_tokens (R := fun o n => o = some n) (fun _ => rfl) hplace ?_ h.tokens
      intro id hid
      rw [hthread] at hid
      exact hid

theorem rebuildTurns_rebuilding {pj : ProtocolProjection} {t : Tables} (hc : Counted pj t) :
    ∀ (turns : List (String × String × Nat)) (u : Tables) (done : String → Prop), Rebuilding t u done →
      (∀ k ∈ turns, usageRows t k.1 k.2.1 ≠ []) →
      ∃ u', rebuildTurns pj turns u = (.ok (), u') ∧ Rebuilding t u' (fun k => done k ∨ k ∈ turns.map (fun k => k.2.1))
  | [], u, done, h, _ => ⟨u, rfl, by simpa using h⟩
  | (thread, turn, source) :: rest, u, done, h, hrows => by
    obtain ⟨u₁, hu₁, h₁⟩ := rebuildTurnUsage_rebuilding hc h (hrows _ List.mem_cons_self) source
    obtain ⟨u', hu', h'⟩ := rebuildTurns_rebuilding hc rest u₁ _ h₁ (fun k hk => hrows k (List.mem_cons_of_mem _ hk))
    refine ⟨u', ?_, ?_⟩
    · rw [rebuildTurns, andThen_ok (by rw [hu₁]), hu₁]
      exact hu'
    · have heq : (fun k => (done k ∨ k = turn) ∨ k ∈ rest.map (fun k => k.2.1)) =
          fun k => done k ∨ k ∈ ((thread, turn, source) :: rest).map (fun k => k.2.1) := by
        funext k
        simp [or_assoc]
      rwa [heq] at h'

/-! ## The turns of the journal -/

theorem usageKey_iff (e : RawEvent) (thread turn : String) (id : Nat) :
    usageKey e = some (thread, turn, id) ↔
      e.threadId = some thread ∧ e.turnId = some turn ∧ e.method = usageMethod ∧ e.id = id := by
  unfold usageKey
  by_cases hm : e.method = usageMethod
  · rw [if_pos hm]
    cases e.threadId with
    | none => simp
    | some th =>
      cases e.turnId with
      | none => simp
      | some tu => simp [hm]
  · simp [hm]

theorem usageRows_ne_nil (t : Tables) (thread turn : String) :
    usageRows t thread turn ≠ [] ↔ ∃ id, (thread, turn, id) ∈ t.journal.events.filterMap usageKey := by
  simp only [usageRows, ne_eq, List.map_eq_nil_iff, List.filter_eq_nil_iff, List.mem_filterMap, usageKey_iff, not_forall]
  constructor
  · rintro ⟨e, he, hkey⟩
    simp only [Bool.and_eq_true, beq_iff_eq, not_not] at hkey
    exact ⟨e.id, e, he, hkey.1.1, hkey.1.2, hkey.2, rfl⟩
  · rintro ⟨id, e, he, hth, htu, hm, -⟩
    exact ⟨e, he, by simp [hth, htu, hm]⟩

theorem mem_lastOfEach {k : String × String × Nat} : ∀ {ks : List (String × String × Nat)}, k ∈ lastOfEach ks → k ∈ ks
  | [], h => h
  | l :: ks, h => by
    rw [lastOfEach] at h
    split at h
    · exact List.mem_cons_of_mem l (mem_lastOfEach h)
    · rcases List.mem_cons.1 h with rfl | h
      · exact List.mem_cons_self
      · exact List.mem_cons_of_mem l (mem_lastOfEach h)

theorem lastOfEach_covers {k : String × String × Nat} :
    ∀ {ks : List (String × String × Nat)}, k ∈ ks → ∃ l ∈ lastOfEach ks, l.1 = k.1 ∧ l.2.1 = k.2.1
  | l :: ks, h => by
    rw [lastOfEach]
    by_cases hlater : ks.any (fun m => m.1 == l.1 && m.2.1 == l.2.1) = true
    · rw [if_pos hlater]
      rcases List.mem_cons.1 h with rfl | h
      · -- the key comes again later
        obtain ⟨m, hm, hkey⟩ := List.any_eq_true.1 hlater
        simp only [Bool.and_eq_true, beq_iff_eq] at hkey
        obtain ⟨l', hl', h₁, h₂⟩ := lastOfEach_covers hm
        exact ⟨l', hl', h₁.trans hkey.1, h₂.trans hkey.2⟩
      · exact lastOfEach_covers h
    · rw [if_neg hlater]
      rcases List.mem_cons.1 h with rfl | h
      · exact ⟨k, List.mem_cons_self, rfl, rfl⟩
      · obtain ⟨l', hl', hkey⟩ := lastOfEach_covers h
        exact ⟨l', List.mem_cons_of_mem l hl', hkey⟩

theorem usageTurns_rows {t : Tables} {k : String × String × Nat} (h : k ∈ usageTurns t) : usageRows t k.1 k.2.1 ≠ [] :=
  (usageRows_ne_nil t k.1 k.2.1).2 ⟨k.2.2, mem_lastOfEach h⟩

theorem usageTurns_covers {t : Tables} {thread turn : String} (h : usageRows t thread turn ≠ []) :
    turn ∈ (usageTurns t).map (fun k => k.2.1) := by
  obtain ⟨id, hmem⟩ := (usageRows_ne_nil t thread turn).1 h
  obtain ⟨l, hl, -, hturn⟩ := lastOfEach_covers hmem
  exact List.mem_map.2 ⟨l, hl, hturn⟩

/-! ## Losing nothing -/

/-- The rebuild succeeds and leaves every sample and the tokens of every agent.  An agent that was never counted shows
`NULL` before and `0` after it. -/
def Lossless (pj : ProtocolProjection) (t : Tables) : Prop :=
  let t' := (rebuildUsageProjectionIfNeeded pj t).2
  (rebuildUsageProjectionIfNeeded pj t).1 = .ok () ∧ (∀ turn, t'.samples.get turn = t.samples.get turn) ∧
    ∀ id a, t.agents.get id = some a → ∃ a', t'.agents.get id = some a' ∧
      (a'.goalTokensUsed = a.goalTokensUsed ∨ a.goalTokensUsed = none ∧ a'.goalTokensUsed = some 0)

theorem putRuntimeMetadata_eq (key : String) (value : Value) (t : Tables) :
    ∃ u, putRuntimeMetadata key value t = (.ok (), { t with metadata := u }) ∧ u.get key = some ⟨key, value⟩ := by
  unfold putRuntimeMetadata
  cases hi : t.metadata.insert ⟨key, value⟩ with
  | some u =>
    refine ⟨u, rfl, ?_⟩
    rw [Table.get_insert hi]
    exact if_pos rfl
  | none =>
    obtain ⟨m, hm⟩ := Option.isSome_iff_exists.1 (Table.insert_none.1 hi)
    have hkey : m.key = key := Table.key_of_get hm
    refine ⟨_, rfl, ?_⟩
    rw [Table.get_update]
    simp only at hm
    rw [hm]
    simp [hkey]

theorem Counted.rebuild {pj : ProtocolProjection} {t : Tables} (h : Counted pj t) (hnew : projectionCurrent t = false) :
    ∃ u metadata, rebuildUsageProjectionIfNeeded pj t = (.ok (), { u with metadata := metadata }) ∧
      metadata.get projectionKey = some ⟨projectionKey, .num (.pos 3)⟩ ∧
      Rebuilding t u (fun k => k ∈ (usageTurns t).map (fun k => k.2.1)) := by
  obtain ⟨u, hu, hr⟩ := rebuildTurns_rebuilding h (usageTurns t) (clearUsage t) _ (clearUsage_rebuilding t)
    (fun k hk => usageTurns_rows hk)
  obtain ⟨metadata, hput, hget⟩ := putRuntimeMetadata_eq projectionKey (.num (.pos 3)) u
  refine ⟨u, metadata, ?_, hget, ?_⟩
  · unfold rebuildUsageProjectionIfNeeded
    rw [hnew, if_neg (by simp), andThen_ok (by rw [hu]), hu]
    exact hput
  · simpa using hr

theorem lossless_of_current (pj : ProtocolProjection) {t : Tables} (h : projectionCurrent t = true) : Lossless pj t := by
  have heq : rebuildUsageProjectionIfNeeded pj t = (.ok (), t) := if_pos h
  unfold Lossless
  rw [heq]
  exact ⟨rfl, fun _ => rfl, fun id a ha => ⟨a, ha, Or.inl rfl⟩⟩

theorem Counted.lossless {pj : ProtocolProjection} {t : Tables} (h : Counted pj t) : Lossless pj t := by
  cases hcur : projectionCurrent t with
  | true => exact lossless_of_current pj hcur
  | false =>
    obtain ⟨u, metadata, heq, -, hr⟩ := h.rebuild hcur
    unfold Lossless
    rw [heq]
    have hsamples : ∀ turn, u.samples.get turn = t.samples.get turn := by
      intro turn
      by_cases hdone : turn ∈ (usageTurns t).map (fun k => k.2.1)
      · exact hr.written turn hdone
      · rw [hr.missing turn hdone]
        cases hs : t.samples.get turn with
        | none => rfl
        | some s =>
          have hback := h.backed s (Table.mem_of_get hs)
          rw [Table.key_of_get hs] at hback
          exact absurd (usageTurns_covers hback) hdone
    refine ⟨rfl, hsamples, fun id a ha => ?_⟩
    obtain ⟨a', ha'⟩ := Option.isSome_iff_exists.1 ((hr.agents id).trans (by rw [ha]; rfl))
    have htokens : agentTokens u id = agentTokens t id := by
      rw [agentTokens_eq, agentTokens_eq, sampleTokens_congr hr.threads]
      exact Table.sum_congr hsamples _
    have hafter := hr.tokens a' (Table.mem_of_get ha')
    have hbefore := h.tokens a (Table.mem_of_get ha)
    rw [Table.key_of_get ha', htokens] at hafter
    rw [Table.key_of_get ha] at hbefore
    refine ⟨a', ha', ?_⟩
    rw [hafter, ← hbefore]
    cases a.goalTokensUsed with
    | none => exact Or.inr ⟨rfl, rfl⟩
    | some n => exact Or.inl rfl

end Session
end Bildr
