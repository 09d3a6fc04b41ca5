import Bildr.UsageDeliveries
/-!
# UsageMalformed — a usage update that cannot be counted

An update is journalled before it is projected, and every later projection of the turn adds up the whole journal of the
turn again, as does every rebuild.  An update whose usage fails its checks or cannot be priced stops each of them, unless
the loop passes over it because the cumulative total did not move (`malformed_usage_harmless_iff`).
-/
namespace Bildr
namespace Usage

open Json (Value)

def malformed (pricing : Option PricingSnapshot) (payload : Value) : Bool :=
  (payload.find ["tokenUsage", "last"]).any (fun last => !((parseTokenUsage last payload).bind (updateCost pricing)).isOk)

def cumulativeTotal (payload : Value) : Nat := (payload.findU64 ["tokenUsage", "total", "totalTokens"]).getD 0

def nextTotal (last : Option Nat) (payload : Value) : Option Nat :=
  if (payload.find ["tokenUsage", "last"]).isSome then some (cumulativeTotal payload) else last

def Skipped (pricing : Option PricingSnapshot) : Option Nat → List Value → Prop
  | _, [] => True
  | last, p :: ps => (malformed pricing p = true → last = some (cumulativeTotal p)) ∧ Skipped pricing (nextTotal last p) ps

def Progress.sourceless (p : Progress) : Progress := { p with lastSource := 0 }

section Loop
variable {pricing : Option PricingSnapshot}

theorem Skipped.of_append : ∀ {ps qs : List Value} {last : Option Nat}, Skipped pricing last (ps ++ qs) →
    Skipped pricing last ps
  | [], _, _, _ => trivial
  | _ :: _, _, _, h => ⟨h.1, h.2.of_append⟩

theorem skipped_of_none : ∀ {ps : List Value} {last : Option Nat}, (∀ p ∈ ps, malformed pricing p = false) →
    Skipped pricing last ps
  | [], _, _ => trivial
  | p :: _, _, h => by
    refine ⟨fun hp => ?_, skipped_of_none (fun q hq => h q (List.mem_cons_of_mem p hq))⟩
    rw [h p List.mem_cons_self] at hp
    cases hp

theorem addUpdate_ok_iff {p : Progress} {row : Nat × Value} :
    (∃ q, addUpdate pricing p row = .ok q) ↔
      (malformed pricing row.2 = true → p.lastCumulativeTotal = some (cumulativeTotal row.2)) := by
  unfold addUpdate malformed cumulativeTotal
  cases hlast : row.2.find ["tokenUsage", "last"] with
  | none => simp
  | some last =>
    simp only [Option.any_some]
    by_cases hsame : p.lastCumulativeTotal = some ((row.2.findU64 ["tokenUsage", "total", "totalTokens"]).getD 0)
    · rw [if_pos hsame]
      exact ⟨fun _ _ => hsame, fun _ => ⟨_, rfl⟩⟩
    · rw [if_neg hsame]
      cases hparse : parseTokenUsage last row.2 with
      | error e => simpa [Except.bind, Except.isOk, Except.toBool] using hsame
      | ok usage =>
        rw [ok_bind]
        cases hcost : updateCost pricing usage with
        | error e => simpa [Except.bind, hcost, Except.isOk, Except.toBool] using hsame
        | ok cost =>
          have hadd : ∃ summary, addSample p.summary usage cost = .ok summary := by
            unfold addSample
            rw [parseTokenUsage_valid hparse]
            exact ⟨_, rfl⟩
          obtain ⟨summary, hadd⟩ := hadd
          rw [ok_bind, hadd]
          refine ⟨fun _ hbad => ?_, fun _ => ⟨_, rfl⟩⟩
          simp [Except.bind, hcost, Except.isOk, Except.toBool] at hbad

theorem addUpdate_total {p q : Progress} {row : Nat × Value} (h : addUpdate pricing p row = .ok q) :
    q.lastCumulativeTotal = nextTotal p.lastCumulativeTotal row.2 := by
  unfold addUpdate at h
  unfold nextTotal cumulativeTotal
  cases hlast : row.2.find ["tokenUsage", "last"] with
  | none =>
    rw [hlast] at h
    cases h
    rfl
  | some last =>
    rw [hlast] at h
    dsimp only at h
    rw [Option.isSome_some, if_pos rfl]
    split at h
    · rename_i hsame
      cases h
      exact hsame
    · obtain ⟨_, -, h⟩ := bind_ok h
      obtain ⟨_, -, h⟩ := bind_ok h
      obtain ⟨_, -, h⟩ := bind_ok h
      cases h
      rfl

theorem addUpdate_unmoved {p : Progress} {row : Nat × Value}
    (hsame : p.lastCumulativeTotal = some (cumulativeTotal row.2)) : addUpdate pricing p row = .ok p := by
  unfold addUpdate
  unfold cumulativeTotal at hsame
  cases row.2.find ["tokenUsage", "last"] with
  | none => rfl
  | some last => exact if_pos hsame

theorem addUpdate_sourceless {p p' q : Progress} {row row' : Nat × Value} (hp : p.sourceless = p'.sourceless)
    (hrow : row.2 = row'.2) (h : addUpdate pricing p row = .ok q) :
    ∃ q', addUpdate pricing p' row' = .ok q' ∧ q.sourceless = q'.sourceless := by
  simp only [Progress.sourceless, Progress.mk.injEq, true_and] at hp
  obtain ⟨hsummary, htotal, hwindow⟩ := hp
  unfold addUpdate at h ⊢
  rw [← hrow, ← htotal, ← hsummary]
  have hsame : p.sourceless = p'.sourceless := by
    simp only [Progress.sourceless, hsummary, htotal, hwindow]
  cases hlast : row.2.find ["tokenUsage", "last"] with
  | none =>
    rw [hlast] at h
    cases h
    exact ⟨p', rfl, hsame⟩
  | some last =>
    rw [hlast] at h
    dsimp only at h ⊢
    split at h
    · rename_i hrepeat
      cases h
      rw [if_pos hrepeat]
      exact ⟨p', rfl, hsame⟩
    · rename_i hmoved
      rw [if_neg hmoved]
      obtain ⟨usage, hparse, h⟩ := bind_ok h
      obtain ⟨cost, hcost, h⟩ := bind_ok h
      obtain ⟨summary, hadd, h⟩ := bind_ok h
      cases h
      rw [hparse, ok_bind, hcost, ok_bind, hadd]
      exact ⟨_, rfl, rfl⟩

/-- **The loop ends exactly when the malformed updates are passed over**, and then counts what it counts without them. -/
theorem foldlM_skipped : ∀ (rows rows' : List (Nat × Value)) (p p' : Progress), p.sourceless = p'.sourceless →
    Skipped pricing p.lastCumulativeTotal (rows.map Prod.snd) →
    rows'.map Prod.snd = (rows.map Prod.snd).filter (fun v => !malformed pricing v) →
    ∃ q q', rows.foldlM (addUpdate pricing) p = .ok q ∧ rows'.foldlM (addUpdate pricing) p' = .ok q' ∧
      q.sourceless = q'.sourceless
  | [], rows', p, p', hp, _, hrows => by
    obtain rfl : rows' = [] := List.map_eq_nil_iff.1 hrows
    exact ⟨p, p', rfl, rfl, hp⟩
  | row :: rows, rows', p, p', hp, hskip, hrows => by
    obtain ⟨q, hq⟩ := addUpdate_ok_iff.2 hskip.1
    have hnext := hskip.2
    rw [← addUpdate_total hq] at hnext
    rw [List.foldlM_cons, hq, ok_bind]
    rw [List.map_cons, List.filter_cons] at hrows
    cases hbad : malformed pricing row.2 with
    | true =>
      rw [hbad, Bool.not_true, if_neg Bool.false_ne_true] at hrows
      obtain rfl := Except.ok.inj ((addUpdate_unmoved (hskip.1 hbad)).symm.trans hq)
      exact foldlM_skipped rows rows' p p' hp hnext hrows
    | false =>
      rw [hbad, Bool.not_false, if_pos rfl] at hrows
      obtain ⟨row', rest, rfl, hrow, hrest⟩ := List.map_eq_cons_iff.1 hrows
      obtain ⟨q', hq', hsame⟩ := addUpdate_sourceless hp hrow.symm hq
      rw [List.foldlM_cons, hq', ok_bind]
      exact foldlM_skipped rows rest q q' hsame hnext hrest

theorem skipped_of_ok : ∀ (rows : List (Nat × Value)) (p q : Progress), rows.foldlM (addUpdate pricing) p = .ok q →
    Skipped pricing p.lastCumulativeTotal (rows.map Prod.snd)
  | [], _, _, _ => trivial
  | row :: rows, p, q, h => by
    rw [List.foldlM_cons] at h
    obtain ⟨p₁, hp₁, h⟩ := bind_ok h
    refine ⟨addUpdate_ok_iff.1 ⟨p₁, hp₁⟩, ?_⟩
    rw [← addUpdate_total hp₁]
    exact skipped_of_ok rows p₁ q h

end Loop
end Usage

namespace Session

open Json (Value)
open Usage

/-! ## The sample of the updates -/

def unsourced (s : TokenSample) : TokenSample := { s with sourceEventId := none }

theorem turnSample_sourceless {p q : Progress} (h : p.sourceless = q.sourceless) (pricing : Option PricingSnapshot)
    (thread turn model : String) :
    unsourced (turnSample pricing thread turn model p) = unsourced (turnSample pricing thread turn model q) := by
  simp only [Progress.sourceless, Progress.mk.injEq, true_and] at h
  simp only [unsourced, turnSample, h.1, h.2.2]

theorem accepted_unsourced (s : TokenSample) : (unsourced s).accepted = s.accepted := rfl

theorem sampleTokens_unsourced (t : Tables) (agent : String) (s : TokenSample) :
    sampleTokens t agent (unsourced s) = sampleTokens t agent s := rfl

section Sample
variable {pj : ProtocolProjection} {model thread turn : String}

theorem skipped_of_sample {rows : List (Nat × Value)} {s : Option TokenSample}
    (h : ledgerSample pj model thread turn rows = .ok s) : Skipped (pj.pricing model) none (rows.map Prod.snd) := by
  obtain ⟨p, hp, -⟩ := bind_ok h
  exact skipped_of_ok rows _ p hp

theorem ledgerSample_skipped (thread turn : String) (rows rows' : List (Nat × Value))
    (hskip : Skipped (pj.pricing model) none (rows.map Prod.snd))
    (hrows : rows'.map Prod.snd = (rows.map Prod.snd).filter (fun v => !malformed (pj.pricing model) v)) :
    (ledgerSample pj model thread turn rows).map (Option.map unsourced) =
      (ledgerSample pj model thread turn rows').map (Option.map unsourced) := by
  obtain ⟨q, q', hq, hq', hsame⟩ := foldlM_skipped rows rows' ⟨UsageSummary.empty, none, 0, none⟩ _ rfl hskip hrows
  have hturn := turnSample_sourceless hsame (pj.pricing model) thread turn model
  have haccepted : (turnSample (pj.pricing model) thread turn model q).accepted =
      (turnSample (pj.pricing model) thread turn model q').accepted := by
    rw [← accepted_unsourced, hturn, accepted_unsourced]
  have hsummary : q.summary = q'.summary := by
    have hsummary : q.sourceless.summary = q'.sourceless.summary := congrArg Progress.summary hsame
    exact hsummary
  unfold ledgerSample summarizeTurn
  rw [hq, hq', ok_bind, ok_bind, hsummary, haccepted]
  by_cases hzero : q'.summary.totalTokens = 0
  · rw [if_pos hzero, if_pos hzero]
  · rw [if_neg hzero, if_neg hzero]
    cases (turnSample (pj.pricing model) thread turn model q').accepted with
    | false => simp only [require, ensure_false, error_bind, Except.map]
    | true => simp only [require, ensure_true, ok_bind, pure_ok, Except.map, Option.map_some, hturn]

end Sample

/-! ## The updates of a turn -/

section Turn
variable (pj : ProtocolProjection) (c : ProjectionContext) (thread turn : String) (t₀ : Tables)

def receive (t : Tables) (n : Value × Int) : Tables := (ingestNotification pj (usageUpdate c n.1) n.2 t).2

def updates (ns : List (Value × Int)) : List Value := ns.map (fun n => storedPayload pj n.1)

def journalOf (ns : List (Value × Int)) : List Value :=
  ns.foldl (fun ps n => journalPayload ps (storedPayload pj n.1)) []

def valid (n : Value × Int) : Bool := !malformed (pj.pricing (deliveryModel c thread turn t₀)) (storedPayload pj n.1)

/-- The updates of a turn that is new to a counted ledger, on a thread of an agent; one sequence names one update. -/
structure TurnUpdates (ns : List (Value × Int)) : Prop where
  fresh : FreshTurn c thread turn (updates pj ns) t₀
  elsewhere : ∀ thread', usageRows t₀ thread' turn = []
  owned : (t₀.threads.get thread).isSome = true
  counted : Counted pj t₀
  sequences : ∀ p ∈ updates pj ns, ∀ q ∈ updates pj ns, (sequenceOf p).isSome = true → sequenceOf p = sequenceOf q → p = q

/-- The updates so far can be recorded at every point: the columns and the tokens of the agent hold the sums. -/
def Recordable (ns : List (Value × Int)) : Prop := ∀ pre, pre <+: ns →
  ∃ s, ledgerSample pj (deliveryModel c thread turn t₀) thread turn ((journalOf pj pre).map (Prod.mk 0)) = .ok s ∧
    ∀ r, s = some r → ∀ agent, agentTokens t₀ agent + sampleTokens t₀ agent r ≤ i64Max

/-- The malformed updates do not reach the others: those are ingested, the turn has the sample of the valid updates alone,
and the ledger can be rebuilt, whatever version it is marked with. -/
structure Unaffected (ns : List (Value × Int)) : Prop where
  ingested : ∀ pre n post, ns = pre ++ n :: post → valid pj c thread turn t₀ n = true →
    (ingestNotification pj (usageUpdate c n.1) n.2 (pre.foldl (receive pj c) t₀)).1.isOk = true
  total : ((ns.foldl (receive pj c) t₀).samples.get turn).map unsourced =
    (((ns.filter (valid pj c thread turn t₀)).foldl (receive pj c) t₀).samples.get turn).map unsourced
  rebuilt : ∀ metadata, (rebuildUsageProjectionIfNeeded pj { ns.foldl (receive pj c) t₀ with metadata := metadata }).1 =
    .ok ()

variable {pj c thread turn t₀}

theorem journalOf_snoc (ns : List (Value × Int)) (n : Value × Int) :
    journalOf pj (ns ++ [n]) = journalPayload (journalOf pj ns) (storedPayload pj n.1) := by
  unfold journalOf
  rw [List.foldl_append]
  rfl

theorem journalOf_prefix (pj : ProtocolProjection) (ns ms : List (Value × Int)) : journalOf pj ns <+: journalOf pj (ns ++ ms) := by
  induction ms using List.reverseRecOn with
  | nil => simp
  | append_singleton ms n ih =>
    rw [← List.append_assoc, journalOf_snoc]
    refine ih.trans ?_
    unfold journalPayload
    split
    · exact List.prefix_refl _
    · exact List.prefix_append _ _

theorem mem_journalOf {ns : List (Value × Int)} {p : Value} (h : p ∈ journalOf pj ns) : p ∈ updates pj ns := by
  induction ns using List.reverseRecOn with
  | nil => cases h
  | append_singleton ns n ih =>
    rw [updates, List.map_append, List.mem_append]
    rw [journalOf_snoc, journalPayload] at h
    split at h
    · exact Or.inl (ih h)
    · rcases List.mem_append.1 h with h | h
      · exact Or.inl (ih h)
      · exact Or.inr h

theorem mem_updates (pj : ProtocolProjection) {ns : List (Value × Int)} {n : Value × Int} (h : n ∈ ns) : storedPayload pj n.1 ∈ updates pj ns :=
  List.mem_map_of_mem h

theorem FreshTurn.subset {known known' : List Value} (h : FreshTurn c thread turn known t₀) (hsub : known' ⊆ known) :
    FreshTurn c thread turn known' t₀ :=
  ⟨fun p hp => h.threadGiven p (hsub hp), fun p hp => h.turnGiven p (hsub hp), h.references, h.rows, h.sample,
    fun p hp => h.unheard p (hsub hp)⟩

theorem TurnUpdates.subset {ns ms : List (Value × Int)} (h : TurnUpdates pj c thread turn t₀ ns) (hsub : ms ⊆ ns) :
    TurnUpdates pj c thread turn t₀ ms := by
  have hupdates : updates pj ms ⊆ updates pj ns := List.map_subset _ hsub
  exact ⟨h.fresh.subset hupdates, h.elsewhere, h.owned, h.counted,
    fun p hp q hq => h.sequences p (hupdates hp) q (hupdates hq)⟩

theorem TurnUpdates.journal_valid {ns : List (Value × Int)} (h : TurnUpdates pj c thread turn t₀ ns) :
    (journalOf pj ns).filter (fun v => !malformed (pj.pricing (deliveryModel c thread turn t₀)) v) =
      journalOf pj (ns.filter (valid pj c thread turn t₀)) := by
  induction ns using List.reverseRecOn with
  | nil => rfl
  | append_singleton ns n ih =>
    have hns : ns ⊆ ns ++ [n] := List.subset_append_left ns [n]
    have ih := ih (h.subset hns)
    have hn : storedPayload pj n.1 ∈ updates pj (ns ++ [n]) := mem_updates pj (List.mem_append_right _ (List.mem_singleton_self n))
    rw [journalOf_snoc, List.filter_append, List.filter_singleton]
    cases hvalid : valid pj c thread turn t₀ n with
    | false =>
      -- a malformed update is not a valid row, whether it is journalled or not
      rw [cond_false, List.append_nil, ← ih, journalPayload]
      split
      · rfl
      · rw [List.filter_append, List.filter_singleton]
        unfold valid at hvalid
        rw [hvalid, cond_false, List.append_nil]
    | true =>
      rw [cond_true, journalOf_snoc, ← ih]
      unfold valid at hvalid
      -- an update under the same sequence is the same update, and valid too
      have hagain : (journalOf pj ns).any (fun q => sequenceOf q == sequenceOf (storedPayload pj n.1)) = true →
          (sequenceOf (storedPayload pj n.1)).isSome = true →
          ((journalOf pj ns).filter (fun v => !malformed (pj.pricing (deliveryModel c thread turn t₀)) v)).any
            (fun q => sequenceOf q == sequenceOf (storedPayload pj n.1)) = true := by
        intro hany hsome
        obtain ⟨q, hq, hsame⟩ := List.any_eq_true.1 hany
        have heq : storedPayload pj n.1 = q := h.sequences _ hn q
          (List.map_subset _ hns (mem_journalOf hq)) hsome (beq_iff_eq.1 hsame).symm
        exact List.any_eq_true.2 ⟨q, List.mem_filter.2 ⟨hq, heq ▸ hvalid⟩, hsame⟩
      unfold journalPayload
      by_cases hold : ((sequenceOf (storedPayload pj n.1)).isSome &&
          (journalOf pj ns).any (fun q => sequenceOf q == sequenceOf (storedPayload pj n.1))) = true
      · rw [if_pos hold]
        rw [Bool.and_eq_true] at hold
        rw [if_pos (by rw [hold.1, hagain hold.2 hold.1]; rfl)]
      · rw [if_neg hold, List.filter_append, List.filter_singleton, hvalid, cond_true, if_neg]
        intro hkept
        rw [Bool.and_eq_true, List.any_eq_true] at hkept
        obtain ⟨hsome, q, hq, hsame⟩ := hkept
        refine hold ?_
        rw [hsome, Bool.true_and]
        exact List.any_eq_true.2 ⟨q, List.mem_of_mem_filter hq, hsame⟩

theorem TurnUpdates.sample {ns : List (Value × Int)} (h : TurnUpdates pj c thread turn t₀ ns)
    (hskip : Skipped (pj.pricing (deliveryModel c thread turn t₀)) none (journalOf pj ns))
    (hrec : Recordable pj c thread turn t₀ (ns.filter (valid pj c thread turn t₀))) {rows : List (Nat × Value)}
    (hrows : rows.map Prod.snd = journalOf pj ns) :
    ∃ s, ledgerSample pj (deliveryModel c thread turn t₀) thread turn rows = .ok s ∧
      ∀ r, s = some r → ∀ agent, agentTokens t₀ agent + sampleTokens t₀ agent r ≤ i64Max := by
  obtain ⟨s', hs', hfits⟩ := hrec _ (List.prefix_refl _)
  have hsame := ledgerSample_skipped thread turn rows
    ((journalOf pj (ns.filter (valid pj c thread turn t₀))).map (Prod.mk 0)) (hrows ▸ hskip)
    (by rw [hrows, h.journal_valid, List.map_map]; exact List.map_id _)
  rw [hs'] at hsame
  cases hs : ledgerSample pj (deliveryModel c thread turn t₀) thread turn rows with
  | error e =>
    rw [hs] at hsame
    cases hsame
  | ok s =>
    rw [hs] at hsame
    refine ⟨s, rfl, fun r hr agent => ?_⟩
    have hs'' : s'.map unsourced = some (unsourced r) := by
      rw [← Except.ok.inj hsame, hr]
      rfl
    obtain ⟨r', hr', heq⟩ := Option.map_eq_some_iff.1 hs''
    rw [← sampleTokens_unsourced, ← heq, sampleTokens_unsourced]
    exact hfits r' hr' agent

/-! ## One update after another -/

theorem TurnUpdates.heard {all : List (Value × Int)} (h : TurnUpdates pj c thread turn t₀ all) (ns : List (Value × Int))
    (hsub : ns ⊆ all) :
    Heard c thread turn (updates pj all) t₀ (ns.foldl (receive pj c) t₀) (journalOf pj ns) := by
  induction ns using List.reverseRecOn with
  | nil => exact h.fresh.heard
  | append_singleton ns n ih =>
    have hn : n ∈ all := hsub (List.mem_append_right _ (List.mem_singleton_self n))
    rw [List.foldl_append, journalOf_snoc]
    exact (ih (fun m hm => hsub (List.mem_append_left _ hm))).ingested h.fresh (mem_updates pj hn) n.2

theorem TurnUpdates.agent {all : List (Value × Int)} (h : TurnUpdates pj c thread turn t₀ all) {t : Tables}
    (hthreads : t.threads = t₀.threads) (fallback : Option String) : usageAgent t thread fallback = owner t thread := by
  obtain ⟨q, hq⟩ := Option.isSome_iff_exists.1 h.owned
  rw [← hthreads] at hq
  simp only [owner, usageAgent, hq, Option.map_some, Option.some_or]

theorem TurnUpdates.model {all : List (Value × Int)} (h : TurnUpdates pj c thread turn t₀ all) {t : Tables}
    {ps : List Value} (hheard : Heard c thread turn (updates pj all) t₀ t ps) :
    turnModel t thread turn = deliveryModel c thread turn t₀ := by
  rw [← hheard.model, turnModel, h.agent hheard.threads]

theorem TurnUpdates.counted_receive {all : List (Value × Int)} (h : TurnUpdates pj c thread turn t₀ all) {t : Tables}
    {ps : List Value} (hheard : Heard c thread turn (updates pj all) t₀ t ps) (hc : Counted pj t) {n : Value × Int}
    (hn : n ∈ all) {s : Option TokenSample}
    (hled : ledgerSample pj (deliveryModel c thread turn t₀) thread turn
      (usageRows (appendRawEvent ((usageUpdate c n.1).raw pj) n.2 t).2 thread turn) = .ok s)
    (hfits : ∀ r, s = some r → ∀ agent, agentTokens t₀ agent + sampleTokens t₀ agent r ≤ i64Max) :
    Counted pj (receive pj c t n) := by
  have hknown := mem_updates pj hn
  refine hc.ingest (fun id _ => ?_)
  have hof : Method.of (usageUpdate c n.1).method = .tokenUsageUpdated := by
    show Method.of usageMethod = _
    decide
  unfold NotificationKeeps
  rw [hof]
  dsimp only
  intro thread' turn' hthread hturn
  have hth : notificationThread (storedPayload pj n.1) = some thread := by
    rw [notificationThread, h.fresh.threadGiven _ hknown, Option.some_or]
  have htu : notificationTurn (storedPayload pj n.1) = some turn := by
    rw [notificationTurn, h.fresh.turnGiven _ hknown, Option.some_or]
  obtain rfl := Option.some.inj (hth.symm.trans hthread)
  obtain rfl := Option.some.inj (htu.symm.trans hturn)
  refine ⟨h.fresh.threadGiven _ hknown, h.fresh.turnGiven _ hknown, ?_, fun other hne => ?_, s, ?_, fun r hr agent => ?_⟩
  · rw [h.agent hheard.threads]
    rfl
  · by_contra hother
    rw [hheard.elsewhere other hother, h.elsewhere other] at hne
    exact hne rfl
  · rw [h.model hheard]
    exact hled
  · obtain ⟨_, -, -, hsample, -, -⟩ := ledgerSample_some (hr ▸ hled) 0
    rw [agentTokens_turn h.fresh hheard (by rw [hsample]; rfl) (by rw [hsample]; rfl) agent]
    exact hfits r hr agent

theorem Recordable.mono {ns ms : List (Value × Int)} (h : Recordable pj c thread turn t₀ ms) (hpre : ns <+: ms) :
    Recordable pj c thread turn t₀ ns := fun pre hp => h pre (hp.trans hpre)

theorem TurnUpdates.counted_run {all ns : List (Value × Int)} (h : TurnUpdates pj c thread turn t₀ all) (hsub : ns ⊆ all)
    (hskip : Skipped (pj.pricing (deliveryModel c thread turn t₀)) none (journalOf pj ns))
    (hrec : Recordable pj c thread turn t₀ (ns.filter (valid pj c thread turn t₀))) :
    Counted pj (ns.foldl (receive pj c) t₀) := by
  induction ns using List.reverseRecOn with
  | nil => exact h.counted
  | append_singleton ns n ih =>
    have hns : ns ⊆ all := fun m hm => hsub (List.mem_append_left _ hm)
    have hn : n ∈ all := hsub (List.mem_append_right _ (List.mem_singleton_self n))
    have hskip' : Skipped (pj.pricing (deliveryModel c thread turn t₀)) none (journalOf pj ns) := by
      obtain ⟨rest, hrest⟩ := journalOf_prefix pj ns [n]
      rw [← hrest] at hskip
      exact hskip.of_append
    have hrec' : Recordable pj c thread turn t₀ (ns.filter (valid pj c thread turn t₀)) :=
      hrec.mono (by rw [List.filter_append]; exact List.prefix_append _ _)
    have hheard := h.heard ns hns
    obtain ⟨-, h₁, -⟩ := hheard.append h.fresh (mem_updates pj hn) n.2
    obtain ⟨s, hled, hfits⟩ := (h.subset hsub).sample hskip hrec (h₁.rows.trans (journalOf_snoc ns n).symm)
    rw [List.foldl_append]
    exact h.counted_receive hheard (ih hns hskip' hrec') hn hled hfits

theorem TurnUpdates.sample_of_counted {all : List (Value × Int)} (h : TurnUpdates pj c thread turn t₀ all) {t : Tables}
    {ps : List Value} (hheard : Heard c thread turn (updates pj all) t₀ t ps) (hc : Counted pj t) :
    ledgerSample pj (deliveryModel c thread turn t₀) thread turn (usageRows t thread turn) = .ok (t.samples.get turn) := by
  by_cases hrows : usageRows t thread turn = []
  · rw [hrows]
    cases hs : t.samples.get turn with
    | none => rfl
    | some s =>
      have hback := hc.backed s (Table.mem_of_get hs)
      rw [hheard.place s hs, Table.key_of_get hs, hrows] at hback
      exact absurd rfl hback
  · rw [← h.model hheard]
    exact hc.samples thread turn hrows

/-! ## A rebuild that meets the turn -/

theorem rebuildTurns_ok {k : String × String × Nat} : ∀ {turns : List (String × String × Nat)} {u : Tables},
    (rebuildTurns pj turns u).1 = .ok () → k ∈ turns →
      ∃ u', u'.journal = u.journal ∧ u'.threads = u.threads ∧ usageModel u' = usageModel u ∧
        (rebuildTurnUsage pj k.1 k.2.1 k.2.2 none u').1 = .ok ()
  | (thread, turn, source) :: rest, u, h, hk => by
    rw [rebuildTurns] at h
    cases hfirst : (rebuildTurnUsage pj thread turn source none u).1 with
    | error e =>
      rw [andThen_error hfirst] at h
      cases h
    | ok _ =>
      rcases List.mem_cons.1 hk with rfl | hk
      · exact ⟨u, rfl, rfl, rfl, hfirst⟩
      · rw [andThen_ok hfirst] at h
        obtain ⟨u', hjournal, hthreads, hmodel, hok⟩ := rebuildTurns_ok h hk
        rcases rebuildTurnUsage_cases pj thread turn source none u with hsame | ⟨agent, s, -, -, hcount⟩
        · rw [hsame] at hjournal hthreads hmodel
          exact ⟨u', hjournal, hthreads, hmodel, hok⟩
        · rw [hcount] at hjournal hthreads hmodel
          refine ⟨u', hjournal.trans countSample_journal, hthreads.trans countSample_threads, hmodel.trans ?_, hok⟩
          funext id turn'
          exact countSample_model id turn'

theorem TurnUpdates.skipped_of_rebuilt {all ns : List (Value × Int)} (h : TurnUpdates pj c thread turn t₀ all)
    (hsub : ns ⊆ all)
    (hok : (rebuildUsageProjectionIfNeeded pj { ns.foldl (receive pj c) t₀ with metadata := ∅ }).1 = .ok ()) :
    Skipped (pj.pricing (deliveryModel c thread turn t₀)) none (journalOf pj ns) := by
  have hheard := h.heard ns hsub
  generalize ns.foldl (receive pj c) t₀ = t at hok hheard
  rw [← hheard.rows]
  by_cases hrows : usageRows t thread turn = []
  · rw [hrows]
    trivial
  obtain ⟨id, hmem⟩ := (usageRows_ne_nil t thread turn).1 hrows
  obtain ⟨k, hk, hthread, hturn⟩ := lastOfEach_covers hmem
  simp only at hthread hturn
  have hstart := clearUsage_rebuilding { t with metadata := ∅ }
  have hturns : (rebuildTurns pj (usageTurns { t with metadata := ∅ }) (clearUsage { t with metadata := ∅ })).1 = .ok () := by
    have hold : projectionCurrent { t with metadata := ∅ } = false := rfl
    unfold rebuildUsageProjectionIfNeeded at hok
    rw [hold, if_neg Bool.false_ne_true] at hok
    cases hfirst : (rebuildTurns pj (usageTurns { t with metadata := ∅ }) (clearUsage { t with metadata := ∅ })).1 with
    | error e =>
      rw [andThen_error hfirst] at hok
      cases hok
    | ok _ => rfl
  obtain ⟨u, hjournal, hthreads, hmodel, hu⟩ := rebuildTurns_ok hturns hk
  rw [hthread, hturn] at hu
  obtain ⟨s, hled, -⟩ := rebuildTurnUsage_ok hu
  have hutables : usageRows u thread turn = usageRows t thread turn := by
    rw [usageRows_congr (hjournal.trans hstart.journal)]
    rfl
  have humodel : usageModel u (usageAgent u thread none) turn = deliveryModel c thread turn t₀ := by
    have hagent : usageAgent u thread none = owner t thread := by
      unfold owner usageAgent
      rw [hthreads.trans hstart.threads]
    rw [hagent, hmodel, hstart.model]
    show turnModel t thread turn = _
    exact h.model hheard
  rw [humodel, hutables] at hled
  exact skipped_of_sample hled

/-! ## An update that is ingested -/

theorem Heard.ingest_ok {known : List Value} (hfresh : FreshTurn c thread turn known t₀) {t : Tables} {ps : List Value}
    (h : Heard c thread turn known t₀ t ps) {payload : Value} (hp : storedPayload pj payload ∈ known) {now : Int}
    (hok : (ingestNotification pj (usageUpdate c payload) now t).1.isOk = true) :
    ∃ s, ledgerSample pj (deliveryModel c thread turn t₀) thread turn
        (usageRows (appendRawEvent ((usageUpdate c payload).raw pj) now t).2 thread turn) = .ok s ∧
      ∀ r, s = some r → ∀ agent, usageAgent t₀ thread c.agentSessionId = some agent →
        agentTokens t₀ agent + sampleTokens t₀ agent r ≤ i64Max := by
  obtain ⟨⟨id, happend⟩, h₁, -⟩ := h.append hfresh hp now
  have hproject := hfresh.project hp id (appendRawEvent ((usageUpdate c payload).raw pj) now t).2
  have hrebuild : (rebuildTurnUsage pj thread turn id c.agentSessionId
      (appendRawEvent ((usageUpdate c payload).raw pj) now t).2).1 = .ok () := by
    rw [← hproject]
    cases hfirst : (project pj c usageMethod id (storedPayload pj payload)
        (appendRawEvent ((usageUpdate c payload).raw pj) now t).2).1 with
    | error e =>
      unfold ingestNotification at hok
      have hpayload : (redactReasoning pj (usageUpdate c payload).method (usageUpdate c payload).payload).1 =
          storedPayload pj payload := rfl
      have hmethod : (usageUpdate c payload).method = usageMethod := rfl
      have hcontext : (usageUpdate c payload).context = c := rfl
      rw [andThen_ok happend, hpayload, hmethod, hcontext, andThen_error hfirst] at hok
      cases hok
    | ok _ => rfl
  obtain ⟨s, hled, hfits⟩ := rebuildTurnUsage_ok hrebuild
  rw [h₁.model] at hled
  refine ⟨s, hled, fun r hr agent hagent => ?_⟩
  obtain ⟨_, -, -, hsample, -, -⟩ := ledgerSample_some (hr ▸ hled) 0
  rw [← agentTokens_turn hfresh h₁ (by rw [hsample]; rfl) (by rw [hsample]; rfl) agent]
  refine hfits r hr agent ?_
  unfold usageAgent at hagent ⊢
  rw [h₁.threads]
  exact hagent

theorem TurnUpdates.recordable {ns : List (Value × Int)} (h : TurnUpdates pj c thread turn t₀ ns)
    (hskip : Skipped (pj.pricing (deliveryModel c thread turn t₀)) none (journalOf pj ns))
    (hingested : ∀ pre n post, ns = pre ++ n :: post → valid pj c thread turn t₀ n = true →
      (ingestNotification pj (usageUpdate c n.1) n.2 (pre.foldl (receive pj c) t₀)).1.isOk = true) :
    Recordable pj c thread turn t₀ (ns.filter (valid pj c thread turn t₀)) := by
  rintro vs ⟨us, hvs⟩
  rcases List.eq_nil_or_concat vs with rfl | ⟨vs, n, rfl⟩
  · exact ⟨none, rfl, fun r hr => by cases hr⟩
  -- the last of them is a valid update, and what came before it left the valid ones before it
  rw [List.concat_eq_append, List.append_assoc] at hvs
  rw [List.concat_eq_append]
  obtain ⟨pre, rest, hns, hpre, hrest⟩ := List.filter_eq_append_iff.1 hvs.symm
  obtain ⟨skipped, post, rfl, hskipped, hn, -⟩ := List.filter_eq_cons_iff.1 hrest
  have hmem : n ∈ ns := by
    rw [hns]
    simp
  have hbefore : (pre ++ skipped).filter (valid pj c thread turn t₀) = vs := by
    rw [List.filter_append, hpre, List.filter_eq_nil_iff.2 hskipped, List.append_nil]
  have hupto : (pre ++ skipped ++ [n]).filter (valid pj c thread turn t₀) = vs ++ [n] := by
    rw [List.filter_append, hbefore, List.filter_singleton, hn, cond_true]
  have hns' : ns = pre ++ skipped ++ n :: post := by rw [hns, List.append_assoc]
  have hsub : pre ++ skipped ++ [n] ⊆ ns := by
    rw [hns']
    intro m hm
    simp only [List.mem_append, List.mem_cons] at hm ⊢
    tauto
  have hheard := h.heard (pre ++ skipped) (fun m hm => hsub (List.mem_append_left _ hm))
  obtain ⟨s, hled, hfits⟩ := hheard.ingest_ok h.fresh (mem_updates pj hmem) (hingested _ n post hns' hn)
  obtain ⟨-, h₁, -⟩ := hheard.append h.fresh (mem_updates pj hmem) n.2
  have hrows := h₁.rows.trans (journalOf_snoc (pre ++ skipped) n).symm
  have hskip' : Skipped (pj.pricing (deliveryModel c thread turn t₀)) none (journalOf pj (pre ++ skipped ++ [n])) := by
    obtain ⟨later, hlater⟩ := journalOf_prefix pj (pre ++ skipped ++ [n]) post
    rw [hns', show pre ++ skipped ++ n :: post = pre ++ skipped ++ [n] ++ post by simp, ← hlater] at hskip
    exact hskip.of_append
  have hsame := ledgerSample_skipped thread turn _ ((journalOf pj (vs ++ [n])).map (Prod.mk 0)) (hrows ▸ hskip')
    (by rw [hrows, (h.subset hsub).journal_valid, hupto, List.map_map]; exact List.map_id _)
  rw [hled] at hsame
  cases hs' : ledgerSample pj (deliveryModel c thread turn t₀) thread turn ((journalOf pj (vs ++ [n])).map (Prod.mk 0)) with
  | error e =>
    rw [hs'] at hsame
    cases hsame
  | ok s' =>
    rw [hs'] at hsame
    refine ⟨s', rfl, fun r' hr' agent => ?_⟩
    have hs : s.map unsourced = some (unsourced r') := by
      rw [Except.ok.inj hsame, hr']
      rfl
    obtain ⟨r, hr, heq⟩ := Option.map_eq_some_iff.1 hs
    rw [← sampleTokens_unsourced, ← heq, sampleTokens_unsourced]
    by_cases hagent : usageAgent t₀ thread c.agentSessionId = some agent
    · exact hfits r hr agent hagent
    · -- another agent has no tokens of the turn
      obtain ⟨_, -, -, hsample, -, -⟩ := ledgerSample_some (hr ▸ hled) 0
      have hthread : r.threadId = thread := by rw [hsample]; rfl
      rw [sampleTokens, hthread, ← h.agent rfl c.agentSessionId, if_neg hagent, Int.add_zero]
      exact h.counted.fits agent

/-- **A malformed update leaves the others alone exactly when the loop passes over it**, because it is journalled under the
cumulative total of the update before it, and the valid updates can be recorded. -/
theorem malformed_usage_harmless_iff {ns : List (Value × Int)} (h : TurnUpdates pj c thread turn t₀ ns) :
    Unaffected pj c thread turn t₀ ns ↔
      Skipped (pj.pricing (deliveryModel c thread turn t₀)) none (journalOf pj ns) ∧
      Recordable pj c thread turn t₀ (ns.filter (valid pj c thread turn t₀)) := by
  constructor
  · intro hu
    have hskip := h.skipped_of_rebuilt (List.Subset.refl ns) (hu.rebuilt ∅)
    exact ⟨hskip, h.recordable hskip hu.ingested⟩
  · rintro ⟨hskip, hrec⟩
    have hcounted := h.counted_run (List.Subset.refl ns) hskip hrec
    refine ⟨fun pre n post hns hn => ?_, ?_, fun metadata => ?_⟩
    · have hmem : n ∈ ns := by rw [hns]; simp
      have hns' : ns = pre ++ [n] ++ post := by rw [hns]; simp
      have hsub : pre ++ [n] ⊆ ns := by
        rw [hns']
        exact List.subset_append_left _ _
      have hheard := h.heard pre (fun m hm => hsub (List.mem_append_left _ hm))
      obtain ⟨-, h₁, -⟩ := hheard.append h.fresh (mem_updates pj hmem) n.2
      have hskip' : Skipped (pj.pricing (deliveryModel c thread turn t₀)) none (journalOf pj (pre ++ [n])) := by
        obtain ⟨later, hlater⟩ := journalOf_prefix pj (pre ++ [n]) post
        rw [hns', ← hlater] at hskip
        exact hskip.of_append
      have hvalid : (pre ++ [n]).filter (valid pj c thread turn t₀) <+: ns.filter (valid pj c thread turn t₀) := by
        rw [hns', List.filter_append (pre ++ [n])]
        exact List.prefix_append _ _
      have hrec' : Recordable pj c thread turn t₀ ((pre ++ [n]).filter (valid pj c thread turn t₀)) := hrec.mono hvalid
      obtain ⟨s, hled, hfits⟩ := (h.subset hsub).sample hskip' hrec' (h₁.rows.trans (journalOf_snoc pre n).symm)
      exact (hheard.ingest h.fresh (mem_updates pj hmem) hled hfits).1
    · -- the valid updates alone have no malformed one
      have hvalid : ns.filter (valid pj c thread turn t₀) ⊆ ns := List.filter_subset_self _
      have hagain : (ns.filter (valid pj c thread turn t₀)).filter (valid pj c thread turn t₀) =
          ns.filter (valid pj c thread turn t₀) := by rw [List.filter_filter]; simp
      have hskip' : Skipped (pj.pricing (deliveryModel c thread turn t₀)) none
          (journalOf pj (ns.filter (valid pj c thread turn t₀))) := by
        rw [← h.journal_valid]
        refine skipped_of_none (fun p hp => ?_)
        simpa using (List.mem_filter.1 hp).2
      have hcounted' := h.counted_run hvalid hskip' (by rw [hagain]; exact hrec)
      have hheard := h.heard ns (List.Subset.refl ns)
      have hheard' := h.heard _ hvalid
      have hsame := ledgerSample_skipped thread turn (usageRows (ns.foldl (receive pj c) t₀) thread turn)
        (usageRows ((ns.filter (valid pj c thread turn t₀)).foldl (receive pj c) t₀) thread turn)
        (hheard.rows ▸ hskip) (by rw [hheard'.rows, hheard.rows, h.journal_valid])
      rw [h.sample_of_counted hheard hcounted, h.sample_of_counted hheard' hcounted'] at hsame
      exact Except.ok.inj hsame
    · have hmarked : Counted pj { ns.foldl (receive pj c) t₀ with metadata := metadata } := hcounted.of_view rfl
      exact hmarked.lossless.1

end Turn

/-! ## A cached input above the input -/

def badUpdate (sum : Nat) : Value :=
  .obj [("threadId", .str "thread"),
    ("tokenUsage", .obj [("last", .obj [("cachedInputTokens", .num (.pos 1))]),
      ("total", .obj [("totalTokens", .num (.pos sum))])]),
    ("turnId", .str "turn")]

theorem turnUpdates_completedAgent {ns : List (Value × Int)}
    (hns : ∀ n ∈ ns, n.1 = (modelCall 10 10).payload ∨ ∃ sum, n.1 = badUpdate sum) :
    TurnUpdates noRedaction agentContext "thread" "turn" completedAgent ns := by
  have hupdates : ∀ p ∈ updates noRedaction ns, p.findText ["threadId"] = some "thread" ∧
      p.findText ["turnId"] = some "turn" ∧ sequenceOf p = none := by
    intro p hp
    obtain ⟨n, hn, rfl⟩ := List.mem_map.1 hp
    rcases hns n hn with hgood | ⟨sum, hbad⟩
    · rw [hgood]
      decide
    · rw [hbad]
      exact ⟨rfl, rfl, rfl⟩
  refine ⟨⟨fun p hp => (hupdates p hp).1, fun p hp => (hupdates p hp).2.1, by decide, rfl, rfl, fun p hp seq hseq => ?_⟩,
    fun _ => rfl, by decide, completedAgent_noUsage.counted noRedaction, fun p hp q _ hsome => ?_⟩
  · rw [(hupdates p hp).2.2] at hseq
    cases hseq
  · rw [(hupdates p hp).2.2] at hsome
    cases hsome

/-- A malformed update under the total of the one before it. -/
theorem malformed_usage_harmless_repeat :
    Unaffected noRedaction agentContext "thread" "turn" completedAgent [((modelCall 10 10).payload, 1), (badUpdate 10, 2)] := by
  refine (malformed_usage_harmless_iff (turnUpdates_completedAgent (fun n hn => ?_))).2 ⟨⟨by decide, by decide, trivial⟩, ?_⟩
  · rcases List.mem_cons.1 hn with rfl | hn
    · exact Or.inl rfl
    · exact Or.inr ⟨10, by rw [List.mem_singleton.1 hn]⟩
  · have hvalid : [((modelCall 10 10).payload, (1 : Int)), (badUpdate 10, 2)].filter
        (valid noRedaction agentContext "thread" "turn" completedAgent) = [((modelCall 10 10).payload, 1)] := by decide
    rw [hvalid]
    intro pre hpre
    rcases List.prefix_cons_iff.1 hpre with rfl | ⟨rest, rfl, hrest⟩
    · exact ⟨none, rfl, fun r hr => by cases hr⟩
    · obtain rfl := List.prefix_nil.1 hrest
      have hled : ledgerSample noRedaction (deliveryModel agentContext "thread" "turn" completedAgent) "thread" "turn"
          ((journalOf noRedaction [((modelCall 10 10).payload, 1)]).map (Prod.mk 0)) =
          .ok (some ⟨"turn", "thread", "model", 0, 0, none, 0, 0, 10, none, some 0, none⟩) := by decide
      refine ⟨_, hled, fun r hr agent => ?_⟩
      cases hr
      have hnone : agentTokens completedAgent agent = 0 := by
        rw [agentTokens_eq]
        rfl
      rw [hnone, sampleTokens]
      split <;> decide

/-- **A malformed update stays in the history and rejects the valid one after it.** -/
theorem malformed_usage_blocks_turn :
    TurnUpdates noRedaction agentContext "thread" "turn" completedAgent [(badUpdate 5, 1), ((modelCall 10 10).payload, 2)] ∧
    ¬ Unaffected noRedaction agentContext "thread" "turn" completedAgent
      [(badUpdate 5, 1), ((modelCall 10 10).payload, 2)] := by
  refine ⟨turnUpdates_completedAgent (fun n hn => ?_), fun h => ?_⟩
  · rcases List.mem_cons.1 hn with rfl | hn
    · exact Or.inr ⟨5, rfl⟩
    · exact Or.inl (by rw [List.mem_singleton.1 hn])
  · have hok := h.ingested [(badUpdate 5, 1)] _ [] rfl (by decide)
    revert hok
    decide

end Session
end Bildr
