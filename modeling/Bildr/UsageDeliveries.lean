import Bildr.UsageJournal
/-!
# UsageDeliveries — the calls of a turn, delivered more than once

A model call is reported by one notification, which may be delivered again.  The loop over the updates of a turn knows the
last cumulative total only: a report that comes again directly counts once, one that comes again after another call counts
again (`turn_usage_counts_once`).  A report with a `sequence` is journalled once.
-/
namespace Bildr
namespace Usage

open Json (Value)

/-! ## Sums of usages -/

/-- The counters of a summary are the sums over the usages, saturated. -/
structure Sums (s : UsageSummary) (us : List TokenUsage) : Prop where
  input : s.inputTokens = min (us.map TokenUsage.inputTokens).sum u64Max
  cached : s.cachedInputTokens = min (us.map TokenUsage.cachedInputTokens).sum u64Max
  unknown : us = [] → s.cacheWriteInputTokens = none
  cacheWrite : us ≠ [] → (∀ l, us.mapM TokenUsage.cacheWriteInputTokens = some l → l.sum ≤ u64Max) →
    s.cacheWriteInputTokens = (us.mapM TokenUsage.cacheWriteInputTokens).map List.sum
  output : s.outputTokens = min (us.map TokenUsage.outputTokens).sum u64Max
  reasoning : s.reasoningOutputTokens = min (us.map TokenUsage.reasoningOutputTokens).sum u64Max
  total : s.totalTokens = min (us.map TokenUsage.totalTokens).sum u64Max

theorem Sums.empty : Sums UsageSummary.empty [] := ⟨rfl, rfl, fun _ => rfl, fun h => absurd rfl h, rfl, rfl, rfl⟩

theorem satAdd_min (a b : Nat) : satAdd (min a u64Max) b = min (a + b) u64Max := by
  unfold satAdd
  omega

theorem Sums.total_eq_zero {s : UsageSummary} {us : List TokenUsage} (h : Sums s us)
    (hpos : ∀ u ∈ us, 0 < u.totalTokens) : s.totalTokens = 0 ↔ us = [] := by
  rw [h.total]
  cases us with
  | nil => simp
  | cons u us =>
    have hu := hpos u List.mem_cons_self
    simp only [List.map_cons, List.sum_cons, u64Max, reduceCtorEq, iff_false]
    omega

theorem Sums.snoc {s s' : UsageSummary} {us : List TokenUsage} {u : TokenUsage} {cost : CostEstimate} (h : Sums s us)
    (hpos : ∀ u ∈ us, 0 < u.totalTokens) (hadd : addSample s u cost = .ok s') : Sums s' (us ++ [u]) := by
  obtain ⟨_, -, hadd⟩ := bind_ok hadd
  cases hadd
  have hsum : ∀ (f : TokenUsage → Nat) (n : Nat), n = min (us.map f).sum u64Max →
      satAdd n (f u) = min ((us ++ [u]).map f).sum u64Max := by
    rintro f n rfl
    rw [satAdd_min, List.map_append, List.sum_append, List.map_singleton, List.sum_singleton]
  refine ⟨hsum _ _ h.input, hsum _ _ h.cached, fun hnil => by simp at hnil, fun _ hfits => ?_, hsum _ _ h.output,
    hsum _ _ h.reasoning, hsum _ _ h.total⟩
  rw [List.mapM_append] at hfits ⊢
  by_cases hus : us = []
  · -- the first call decides whether the sum is known
    have hzero := (h.total_eq_zero hpos).2 hus
    rw [h.unknown hus]
    subst hus
    simp only [hzero, List.mapM_nil, List.mapM_cons]
    cases u.cacheWriteInputTokens <;> simp
  · have hnonzero : s.totalTokens ≠ 0 := fun hz => hus ((h.total_eq_zero hpos).1 hz)
    cases hl : us.mapM TokenUsage.cacheWriteInputTokens with
    | none =>
      rw [h.cacheWrite hus (fun l hl' => by rw [hl] at hl'; cases hl'), hl]
      cases u.cacheWriteInputTokens <;> simp [hnonzero]
    | some l =>
      cases hu : u.cacheWriteInputTokens with
      | none => cases s.cacheWriteInputTokens <;> simp [hu]
      | some b =>
        have hb : (l ++ [b]).sum ≤ u64Max := hfits (l ++ [b]) (by simp [hl, hu])
        rw [List.sum_append, List.sum_singleton] at hb
        rw [h.cacheWrite hus (fun l' hl' => by rw [hl] at hl'; cases hl'; omega), hl]
        simp only [Option.map_some, satAdd]
        simp [hu, Nat.min_eq_left hb]

/-! ## The loop over reports -/

/-- The payload reports a call that the code accepts and can price. -/
structure Reports (pricing : Option PricingSnapshot) (payload : Value) (usage : TokenUsage) (total : Nat) : Prop where
  last : ∃ last, payload.find ["tokenUsage", "last"] = some last ∧ parseTokenUsage last payload = .ok usage
  cumulative : payload.findU64 ["tokenUsage", "total", "totalTokens"] = some total
  priced : ∃ cost, updateCost pricing usage = .ok cost

theorem parseTokenUsage_valid {last payload : Value} {u : TokenUsage} (h : parseTokenUsage last payload = .ok u) :
    u.validate = .ok () := by
  obtain ⟨_, hv, h⟩ := bind_ok h
  cases h
  exact mapError_ok.1 hv

theorem addUpdate_again {pricing : Option PricingSnapshot} {payload : Value} {usage : TokenUsage} {total : Nat}
    (h : Reports pricing payload usage total) {p : Progress} (hp : p.lastCumulativeTotal = some total) (id : Nat) :
    addUpdate pricing p (id, payload) = .ok p := by
  obtain ⟨last, hlast, -⟩ := h.last
  simp only [addUpdate, hlast, h.cumulative, Option.getD_some, hp, if_true]

theorem addUpdate_new {pricing : Option PricingSnapshot} {payload : Value} {usage : TokenUsage} {total : Nat}
    (h : Reports pricing payload usage total) {p : Progress} (hp : p.lastCumulativeTotal ≠ some total) (id : Nat) :
    ∃ cost summary, addSample p.summary usage cost = .ok summary ∧
      addUpdate pricing p (id, payload) = .ok ⟨summary, some total, id, usage.modelContextWindow⟩ := by
  obtain ⟨last, hlast, hparse⟩ := h.last
  obtain ⟨cost, hcost⟩ := h.priced
  have hadd : ∃ summary, addSample p.summary usage cost = .ok summary := by
    unfold addSample
    rw [parseTokenUsage_valid hparse]
    exact ⟨_, rfl⟩
  obtain ⟨summary, hadd⟩ := hadd
  refine ⟨cost, summary, hadd, ?_⟩
  simp only [addUpdate, hlast, h.cumulative, Option.getD_some, hp, if_false, hparse, hcost, ok_bind, hadd]
  rfl

def counted : Option Nat → List Nat → List Nat
  | _, []         => []
  | last, i :: js => if last = some i then counted last js else i :: counted (some i) js

theorem foldlM_reports {pricing : Option PricingSnapshot} {payload : Nat → Value} {usage : Nat → TokenUsage}
    {total : Nat → Nat} : ∀ (js : List Nat) (rows : List (Nat × Value)) (p : Progress) (last : Option Nat) (cs : List Nat),
    rows.map Prod.snd = js.map payload → (∀ i ∈ js, Reports pricing (payload i) (usage i) (total i)) →
    (∀ i ∈ js, ∀ j, (j ∈ js ∨ last = some j) → total i = total j → i = j) →
    (∀ i ∈ cs, 0 < (usage i).totalTokens) → (∀ i ∈ js, 0 < (usage i).totalTokens) →
    p.lastCumulativeTotal = last.map total → Sums p.summary (cs.map usage) →
    ∃ q, rows.foldlM (addUpdate pricing) p = .ok q ∧ Sums q.summary ((cs ++ counted last js).map usage)
  | [], rows, p, last, cs, hrows, _, _, _, _, _, hsum => by
    obtain rfl : rows = [] := by simpa using hrows
    refine ⟨p, rfl, ?_⟩
    rw [counted, List.append_nil]
    exact hsum
  | i :: js, [], _, _, _, hrows, _, _, _, _, _, _ => by simp at hrows
  | i :: js, (id, value) :: rows, p, last, cs, hrows, hreports, hinj, hcs, hpos, hlast, hsum => by
    simp only [List.map_cons, List.cons.injEq] at hrows
    obtain ⟨rfl, hrows⟩ := hrows
    have hi := hreports i List.mem_cons_self
    rw [List.foldlM_cons]
    by_cases hsame : last = some i
    · -- the total did not move
      rw [addUpdate_again hi (by rw [hlast, hsame]; rfl), ok_bind, counted, if_pos hsame]
      refine foldlM_reports js rows p last cs hrows (fun j hj => hreports j (List.mem_cons_of_mem i hj))
        (fun j hj k hk => hinj j (List.mem_cons_of_mem i hj) k (hk.imp (List.mem_cons_of_mem i) (fun h => h))) hcs
        (fun j hj => hpos j (List.mem_cons_of_mem i hj)) hlast hsum
    · have hmoved : p.lastCumulativeTotal ≠ some (total i) := by
        rw [hlast]
        cases last with
        | none => exact fun h => by cases h
        | some j =>
          exact fun h => hsame (congrArg some (hinj i List.mem_cons_self j (Or.inr rfl) (Option.some.inj h).symm).symm)
      obtain ⟨cost, summary, hadd, hstep⟩ := addUpdate_new hi hmoved id
      rw [hstep, ok_bind, counted, if_neg hsame]
      have hcs' : ∀ j ∈ cs ++ [i], 0 < (usage j).totalTokens := fun j hj =>
        (List.mem_append.1 hj).elim (hcs j) (fun hj => List.mem_singleton.1 hj ▸ hpos i List.mem_cons_self)
      have hsum' := hsum.snoc (fun u hu => by
        obtain ⟨j, hj, rfl⟩ := List.mem_map.1 hu
        exact hcs j hj) hadd
      rw [← List.map_singleton, ← List.map_append] at hsum'
      obtain ⟨q, hq, hsums⟩ := foldlM_reports js rows
        ⟨summary, some (total i), id, (usage i).modelContextWindow⟩ (some i) (cs ++ [i]) hrows
        (fun j hj => hreports j (List.mem_cons_of_mem i hj))
        (fun j hj k hk => hinj j (List.mem_cons_of_mem i hj) k (hk.elim (fun hk => Or.inl (List.mem_cons_of_mem i hk))
          (fun hk => Or.inl (Option.some.inj hk ▸ List.mem_cons_self)))) hcs'
        (fun j hj => hpos j (List.mem_cons_of_mem i hj)) rfl hsum'
      rw [List.append_assoc] at hsums
      exact ⟨q, hq, hsums⟩

theorem counted_snoc : ∀ (last : Option Nat) (js : List Nat) (i : Nat),
    counted last (js ++ [i]) = counted last js ++ (if (js.getLast?.or last) = some i then [] else [i])
  | last, [], i => by
    by_cases h : last = some i <;> simp [counted, h]
  | last, j :: js, i => by
    have hlast : ((j :: js).getLast?).or last = (js.getLast?).or (some j) := by
      cases js with
      | nil => simp
      | cons k js => simp [List.getLast?_cons]
    rw [List.cons_append, counted, counted, hlast]
    by_cases hsame : last = some j
    · rw [if_pos hsame, if_pos hsame, counted_snoc last js i, hsame]
    · rw [if_neg hsame, if_neg hsame, counted_snoc (some j) js i, List.cons_append]

/-! ## Deliveries -/

/-- Calls are delivered in order, each again any number of times: `n` calls were delivered. -/
inductive Delivers : Nat → List Nat → Prop
  | none : Delivers 0 []
  | first {n : Nat} {ds : List Nat} (h : Delivers n ds) : Delivers (n + 1) (ds ++ [n])
  | again {n i : Nat} {ds : List Nat} (h : Delivers n ds) (hi : i < n) : Delivers n (ds ++ [i])

def journal (sequenced : Nat → Bool) (js : List Nat) (i : Nat) : List Nat :=
  if sequenced i && js.contains i then js else js ++ [i]

def journalled (sequenced : Nat → Bool) (ds : List Nat) : List Nat := ds.foldl (journal sequenced) []

def Direct (js : List Nat) : Prop := ∀ pre i post, js = pre ++ i :: post → i ∈ pre → pre.getLast? = some i

theorem direct_snoc {js : List Nat} {i : Nat} : Direct (js ++ [i]) ↔ Direct js ∧ (i ∈ js → js.getLast? = some i) := by
  constructor
  · intro h
    exact ⟨fun pre k post hjs => h pre k (post ++ [i]) (by rw [hjs]; simp), fun hi => h js i [] rfl hi⟩
  · rintro ⟨h, hi⟩ pre k post hjs hk
    rcases List.eq_nil_or_concat' post with rfl | ⟨post', x, rfl⟩
    · obtain ⟨rfl, hik⟩ := List.append_inj' hjs rfl
      cases hik
      exact hi hk
    · rw [← List.cons_append, ← List.append_assoc] at hjs
      exact h pre k post' (List.append_inj' hjs rfl).1 hk

theorem Delivers.mem {n : Nat} {ds : List Nat} (h : Delivers n ds) (i : Nat) : i ∈ ds ↔ i < n := by
  induction h with
  | none => simp
  | first _ ih =>
    rw [List.mem_append, List.mem_singleton, ih]
    omega
  | again _ hk ih =>
    rw [List.mem_append, List.mem_singleton, ih]
    omega

theorem journalled_snoc (sequenced : Nat → Bool) (ds : List Nat) (i : Nat) :
    journalled sequenced (ds ++ [i]) = journal sequenced (journalled sequenced ds) i := by
  unfold journalled
  rw [List.foldl_append]
  rfl

theorem mem_journalled (sequenced : Nat → Bool) (ds : List Nat) (i : Nat) : i ∈ journalled sequenced ds ↔ i ∈ ds := by
  induction ds using List.reverseRecOn with
  | nil => rfl
  | append_singleton ds k ih =>
    rw [journalled_snoc, journal, List.mem_append, List.mem_singleton]
    split
    · rename_i hk
      rw [Bool.and_eq_true, List.contains_iff_mem] at hk
      refine ih.trans ⟨Or.inl, fun h => h.elim (fun h => h) (fun h => ?_)⟩
      exact ih.1 (h ▸ hk.2)
    · rw [List.mem_append, List.mem_singleton, ih]

/-- **What is counted of the deliveries**: every call once, and more exactly when one is journalled again after another. -/
theorem counted_deliveries (sequenced : Nat → Bool) {n : Nat} {ds : List Nat} (h : Delivers n ds) :
    (Direct (journalled sequenced ds) ∧ counted none (journalled sequenced ds) = List.range n) ∨
    (¬ Direct (journalled sequenced ds) ∧ ∃ extra, extra ≠ [] ∧ (∀ i ∈ extra, i < n) ∧
      (counted none (journalled sequenced ds)).Perm (List.range n ++ extra)) := by
  induction h with
  | none => exact Or.inl ⟨fun pre i post hjs => by simp [journalled] at hjs, rfl⟩
  | @first n ds h ih =>
    have hnew : n ∉ journalled sequenced ds := fun hn =>
      Nat.lt_irrefl n ((h.mem n).1 ((mem_journalled sequenced ds n).1 hn))
    have hstep : journalled sequenced (ds ++ [n]) = journalled sequenced ds ++ [n] := by
      rw [journalled_snoc, journal, if_neg]
      rw [Bool.and_eq_true, List.contains_iff_mem]
      exact fun hn => hnew hn.2
    have hlast : ((journalled sequenced ds).getLast?).or none ≠ some n := by
      rw [Option.or_none]
      exact fun hn => hnew (List.mem_of_getLast? hn)
    rw [hstep, direct_snoc, counted_snoc, if_neg hlast]
    rcases ih with ⟨hd, hc⟩ | ⟨hd, extra, hextra, hlt, hperm⟩
    · exact Or.inl ⟨⟨hd, fun hn => absurd hn hnew⟩, by rw [hc, List.range_succ]⟩
    · refine Or.inr ⟨fun h => hd h.1, extra, hextra, fun i hi => Nat.lt_succ_of_lt (hlt i hi), ?_⟩
      rw [List.range_succ, List.append_assoc]
      refine (hperm.append_right [n]).trans ?_
      rw [List.append_assoc]
      exact List.perm_append_comm.append_left _
  | @again n i ds h hi ih =>
    have hold : i ∈ journalled sequenced ds := (mem_journalled sequenced ds i).2 ((h.mem i).2 hi)
    rw [journalled_snoc, journal]
    split
    · exact ih
    · rw [direct_snoc, counted_snoc, Option.or_none]
      by_cases hlast : (journalled sequenced ds).getLast? = some i
      · rw [if_pos hlast, List.append_nil]
        rcases ih with ⟨hd, hc⟩ | ⟨hd, hrest⟩
        · exact Or.inl ⟨⟨hd, fun _ => hlast⟩, hc⟩
        · exact Or.inr ⟨fun h => hd h.1, hrest⟩
      · rw [if_neg hlast]
        have hnot : ¬ (Direct (journalled sequenced ds) ∧
            (i ∈ journalled sequenced ds → (journalled sequenced ds).getLast? = some i)) := fun h => hlast (h.2 hold)
        rcases ih with ⟨-, hc⟩ | ⟨-, extra, hextra, hlt, hperm⟩
        · refine Or.inr ⟨hnot, [i], by simp, fun j hj => List.mem_singleton.1 hj ▸ hi, ?_⟩
          rw [hc]
        · refine Or.inr ⟨hnot, extra ++ [i], by simp, fun j hj => ?_, ?_⟩
          · exact (List.mem_append.1 hj).elim (hlt j) (fun hj => List.mem_singleton.1 hj ▸ hi)
          · rw [← List.append_assoc]
            exact hperm.append_right [i]

end Usage

namespace Session

open Json (Value)
open Usage

/-! ## Samples -/

structure SumOf (s : TokenSample) (us : List TokenUsage) : Prop where
  input : s.inputTokens = (us.map TokenUsage.inputTokens).sum
  cached : s.cachedInputTokens = (us.map TokenUsage.cachedInputTokens).sum
  cacheWrite : s.cacheWriteInputTokens = (us.mapM TokenUsage.cacheWriteInputTokens).map (fun l => (l.sum : Int))
  output : s.outputTokens = (us.map TokenUsage.outputTokens).sum
  reasoning : s.reasoningOutputTokens = (us.map TokenUsage.reasoningOutputTokens).sum
  total : s.totalTokens = (us.map TokenUsage.totalTokens).sum

/-- The sums of the usages, and with them the tokens of every agent, are 64-bit integers. -/
structure Fits (t : Tables) (us : List TokenUsage) : Prop where
  input : ((us.map TokenUsage.inputTokens).sum : Int) ≤ i64Max
  output : ((us.map TokenUsage.outputTokens).sum : Int) ≤ i64Max
  total : ((us.map TokenUsage.totalTokens).sum : Int) ≤ i64Max
  tokens : ∀ agent, agentTokens t agent + (us.map TokenUsage.totalTokens).sum ≤ i64Max

theorem validate_le {u : TokenUsage} (h : u.validate = .ok ()) : u.cachedInputTokens ≤ u.inputTokens ∧
    u.cacheWriteInputTokens.getD 0 ≤ u.inputTokens ∧ u.reasoningOutputTokens ≤ u.outputTokens := by
  obtain ⟨_, hcached, h⟩ := bind_ok h
  obtain ⟨_, hwrite, h⟩ := bind_ok h
  exact ⟨of_decide_eq_true (ensure_ok hcached), of_decide_eq_true (ensure_ok hwrite), of_decide_eq_true (ensure_ok h)⟩

theorem sum_map_le {f g : TokenUsage → Nat} : ∀ {us : List TokenUsage}, (∀ u ∈ us, f u ≤ g u) →
    (us.map f).sum ≤ (us.map g).sum
  | [], _ => Nat.le_refl _
  | u :: us, h => by
    have ih := sum_map_le (fun v hv => h v (List.mem_cons_of_mem u hv))
    have hu := h u List.mem_cons_self
    simp only [List.map_cons, List.sum_cons]
    omega

theorem sum_cacheWrite_le : ∀ {us : List TokenUsage} {l : List Nat}, (∀ u ∈ us, u.validate = .ok ()) →
    us.mapM TokenUsage.cacheWriteInputTokens = some l → l.sum ≤ (us.map TokenUsage.inputTokens).sum
  | [], l, _, h => by
    cases h
    exact Nat.le_refl _
  | u :: us, l, hv, h => by
    rw [List.mapM_cons] at h
    simp only [Option.bind_eq_bind, Option.bind_eq_some_iff, Option.pure_def, Option.some.injEq] at h
    obtain ⟨n, hn, m, hm, rfl⟩ := h
    have ih := sum_cacheWrite_le (fun v hv' => hv v (List.mem_cons_of_mem u hv')) hm
    have hu := (validate_le (hv u List.mem_cons_self)).2.1
    rw [hn, Option.getD_some] at hu
    simp only [List.map_cons, List.sum_cons]
    omega

theorem asI64_min {n : Nat} (h : (n : Int) ≤ i64Max) : asI64 (min n u64Max) = n := by
  have hmin : min n u64Max = n := by
    unfold i64Max at h
    unfold u64Max
    omega
  rw [hmin, asI64, fitsI64, decide_eq_true h, if_pos rfl]

theorem turnSample_sums {t : Tables} {us : List TokenUsage} {p : Progress} (pricing : Option PricingSnapshot)
    (thread turn model : String) (hsums : Sums p.summary us) (hne : us ≠ []) (hvalid : ∀ u ∈ us, u.validate = .ok ())
    (hfits : Fits t us) : SumOf (turnSample pricing thread turn model p) us ∧
      (turnSample pricing thread turn model p).accepted = true := by
  have hcached := sum_map_le (fun u hu => (validate_le (hvalid u hu)).1)
  have hreasoning := sum_map_le (fun u hu => (validate_le (hvalid u hu)).2.2)
  have hci : ((us.map TokenUsage.cachedInputTokens).sum : Int) ≤ i64Max :=
    (Int.ofNat_le.2 hcached).trans hfits.input
  have hro : ((us.map TokenUsage.reasoningOutputTokens).sum : Int) ≤ i64Max :=
    (Int.ofNat_le.2 hreasoning).trans hfits.output
  have hsum : SumOf (turnSample pricing thread turn model p) us := by
    constructor
    · show asI64 p.summary.inputTokens = _
      rw [hsums.input, asI64_min hfits.input]
    · show asI64 p.summary.cachedInputTokens = _
      rw [hsums.cached, asI64_min hci]
    · show p.summary.cacheWriteInputTokens.map asI64 = _
      have hle : ∀ l, us.mapM TokenUsage.cacheWriteInputTokens = some l → (l.sum : Int) ≤ i64Max := fun l hl =>
        (Int.ofNat_le.2 (sum_cacheWrite_le hvalid hl)).trans hfits.input
      have hle64 : ∀ l, us.mapM TokenUsage.cacheWriteInputTokens = some l → l.sum ≤ u64Max := by
        intro l hl
        have := hle l hl
        unfold i64Max at this
        unfold u64Max
        omega
      rw [hsums.cacheWrite hne hle64]
      cases hl : us.mapM TokenUsage.cacheWriteInputTokens with
      | none => rfl
      | some l =>
        have hasI64 := asI64_min (hle l hl)
        rw [Nat.min_eq_left (hle64 l hl)] at hasI64
        simp only [Option.map_some, hasI64]
    · show asI64 p.summary.outputTokens = _
      rw [hsums.output, asI64_min hfits.output]
    · show asI64 p.summary.reasoningOutputTokens = _
      rw [hsums.reasoning, asI64_min hro]
    · show asI64 p.summary.totalTokens = _
      rw [hsums.total, asI64_min hfits.total]
  refine ⟨hsum, ?_⟩
  unfold TokenSample.accepted
  rw [hsum.input, hsum.cached, hsum.cacheWrite, hsum.output, hsum.reasoning, hsum.total]
  cases us.mapM TokenUsage.cacheWriteInputTokens <;>
    simp only [Option.map_none, Option.map_some, Option.all_none, Option.all_some, Bool.and_eq_true, decide_eq_true_eq,
      Int.natCast_nonneg, Int.ofNat_le, and_self, hcached, hreasoning]

/-! ## The turn -/

structure ModelCall where
  payload : Value
  usage : TokenUsage

section Turn
variable (pj : ProtocolProjection) (c : ProjectionContext) (thread turn : String) (calls : List ModelCall) (t₀ : Tables)

def payloads : List Value := calls.map (fun q => storedPayload pj q.payload)

def payloadOf (i : Nat) : Value := ((payloads pj calls)[i]?).getD .null

def usageOf (i : Nat) : TokenUsage := ((calls[i]?).map ModelCall.usage).getD ⟨0, 0, none, 0, 0, 0, none⟩

def totalOf (i : Nat) : Nat := ((calls.take (i + 1)).map (fun q => q.usage.totalTokens)).sum

def sequenced (i : Nat) : Bool := (sequenceOf (payloadOf pj calls i)).isSome

/-- The reports of the calls of a turn: of positive usages the code accepts, with the running sums, and no two calls under
one sequence. -/
structure TurnCalls : Prop where
  positive : ∀ q ∈ calls, 0 < q.usage.totalTokens
  reports : ∀ i < calls.length,
    Reports (pj.pricing (deliveryModel c thread turn t₀)) (payloadOf pj calls i) (usageOf calls i) (totalOf calls i)
  sequences : ∀ i < calls.length, ∀ j < calls.length, sequenced pj calls i = true →
    sequenceOf (payloadOf pj calls i) = sequenceOf (payloadOf pj calls j) → i = j

def deliver (t : Tables) (d : Nat × Int) : Tables :=
  match calls[d.1]? with
  | some q => (ingestNotification pj (usageUpdate c q.payload) d.2 t).2
  | none   => t

def SampleIs (t : Tables) (us : List TokenUsage) : Prop := ∃ s, t.samples.get turn = some s ∧ SumOf s us

variable {pj c thread turn calls t₀}

theorem payloadOf_some {i : Nat} {q : ModelCall} (h : calls[i]? = some q) : payloadOf pj calls i = storedPayload pj q.payload := by
  rw [payloadOf, payloads, List.getElem?_map, h]
  rfl

theorem payloadOf_known (pj : ProtocolProjection) {i : Nat} (h : i < calls.length) : payloadOf pj calls i ∈ payloads pj calls := by
  have hq : calls[i]? = some calls[i] := List.getElem?_eq_getElem h
  rw [payloadOf_some hq]
  exact List.mem_map_of_mem (List.getElem_mem h)

theorem usageOf_some {i : Nat} {q : ModelCall} (h : calls[i]? = some q) : usageOf calls i = q.usage := by
  rw [usageOf, h]
  rfl

theorem TurnCalls.usage_pos (h : TurnCalls pj c thread turn calls t₀) {i : Nat} (hi : i < calls.length) :
    0 < (usageOf calls i).totalTokens := by
  rw [usageOf_some (List.getElem?_eq_getElem hi)]
  exact h.positive _ (List.getElem_mem hi)

theorem totalOf_lt {i j : Nat} (hpos : ∀ q ∈ calls, 0 < q.usage.totalTokens) (hij : i < j) (hj : j < calls.length) :
    totalOf calls i < totalOf calls j := by
  have hsplit : calls.take (j + 1) = calls.take j ++ [calls[j]] := List.take_succ_eq_append_getElem hj
  have hpre : calls.take (i + 1) <+: calls.take j := List.take_prefix_take_left hij
  obtain ⟨rest, hrest⟩ := hpre
  have hq := hpos _ (List.getElem_mem hj)
  unfold totalOf
  rw [hsplit, ← hrest]
  simp only [List.map_append, List.sum_append, List.map_singleton, List.sum_singleton]
  omega

theorem totalOf_inj (hpos : ∀ q ∈ calls, 0 < q.usage.totalTokens) {i j : Nat} (hi : i < calls.length)
    (hj : j < calls.length) (h : totalOf calls i = totalOf calls j) : i = j := by
  rcases Nat.lt_trichotomy i j with hlt | rfl | hlt
  · exact absurd h (Nat.ne_of_lt (totalOf_lt hpos hlt hj))
  · rfl
  · exact absurd h.symm (Nat.ne_of_lt (totalOf_lt hpos hlt hi))

theorem journal_payloads (hcalls : TurnCalls pj c thread turn calls t₀) {js : List Nat} (hlt : ∀ i ∈ js, i < calls.length)
    {i : Nat} (hi : i < calls.length) :
    (journal (sequenced pj calls) js i).map (payloadOf pj calls) =
      journalPayload (js.map (payloadOf pj calls)) (payloadOf pj calls i) := by
  have hsame : (sequenced pj calls i && js.contains i) = ((sequenceOf (payloadOf pj calls i)).isSome &&
      (js.map (payloadOf pj calls)).any (fun q => sequenceOf q == sequenceOf (payloadOf pj calls i))) := by
    refine Bool.eq_iff_iff.2 ?_
    simp only [Bool.and_eq_true, List.contains_iff_mem, List.any_eq_true, List.mem_map, beq_iff_eq]
    refine and_congr_right (fun hs => ⟨fun h => ⟨_, ⟨i, h, rfl⟩, rfl⟩, ?_⟩)
    rintro ⟨_, ⟨j, hj, rfl⟩, hseq⟩
    exact hcalls.sequences i hi j (hlt j hj) hs hseq.symm ▸ hj
  unfold journal journalPayload
  rw [← hsame]
  split
  · rfl
  · rw [List.map_append, List.map_singleton]

/-! ## One delivery -/

theorem counted_cons (i : Nat) (js : List Nat) : counted none (i :: js) = i :: counted (some i) js := by
  rw [counted, if_neg (by simp)]

theorem counted_sublist : ∀ (last : Option Nat) (js : List Nat), (counted last js).Sublist js
  | _, []      => List.Sublist.slnil
  | last, i :: js => by
    rw [counted]
    split
    · exact (counted_sublist last js).cons i
    · exact (counted_sublist (some i) js).cons_cons i

theorem sum_map_sublist (f : TokenUsage → Nat) {us vs : List TokenUsage} (h : us.Sublist vs) :
    (us.map f).sum ≤ (vs.map f).sum := by
  induction h with
  | slnil => exact Nat.le_refl _
  | cons v _ ih =>
    simp only [List.map_cons, List.sum_cons]
    omega
  | cons_cons v _ ih =>
    simp only [List.map_cons, List.sum_cons]
    omega

theorem Fits.sublist {t : Tables} {us vs : List TokenUsage} (h : Fits t vs) (hsub : us.Sublist vs) : Fits t us := by
  have hle := fun f => sum_map_sublist f hsub
  refine ⟨(Int.ofNat_le.2 (hle _)).trans h.input, (Int.ofNat_le.2 (hle _)).trans h.output,
    (Int.ofNat_le.2 (hle _)).trans h.total, fun agent => ?_⟩
  have h₁ := h.tokens agent
  have h₂ := hle TokenUsage.totalTokens
  omega

theorem TurnCalls.sample (hcalls : TurnCalls pj c thread turn calls t₀) {rows : List (Nat × Value)} {js : List Nat}
    (hrows : rows.map Prod.snd = js.map (payloadOf pj calls)) (hjs : js ≠ []) (hlt : ∀ i ∈ js, i < calls.length)
    (hfits : Fits t₀ ((counted none js).map (usageOf calls))) :
    ∃ s, ledgerSample pj (deliveryModel c thread turn t₀) thread turn rows = .ok (some s) ∧
      SumOf s ((counted none js).map (usageOf calls)) := by
  obtain ⟨p, hp, hsums⟩ := foldlM_reports js rows ⟨UsageSummary.empty, none, 0, none⟩ none [] hrows
    (fun i hi => hcalls.reports i (hlt i hi))
    (fun i hi j hj => totalOf_inj hcalls.positive (hlt i hi) (hlt j (hj.resolve_right (by simp))))
    (fun i hi => by cases hi) (fun i hi => hcalls.usage_pos (hlt i hi)) rfl Sums.empty
  rw [List.nil_append] at hsums
  have hmem : ∀ u ∈ (counted none js).map (usageOf calls), ∃ i ∈ js, usageOf calls i = u := fun u hu => by
    obtain ⟨i, hi, rfl⟩ := List.mem_map.1 hu
    exact ⟨i, (counted_sublist none js).subset hi, rfl⟩
  have hne : (counted none js).map (usageOf calls) ≠ [] := by
    obtain ⟨i, js', rfl⟩ := List.exists_cons_of_ne_nil hjs
    rw [counted_cons]
    simp
  have hnonzero : p.summary.totalTokens ≠ 0 := fun hz => hne ((hsums.total_eq_zero (fun u hu => by
    obtain ⟨i, hi, rfl⟩ := hmem u hu
    exact hcalls.usage_pos (hlt i hi))).1 hz)
  have hvalid : ∀ u ∈ (counted none js).map (usageOf calls), u.validate = .ok () := by
    intro u hu
    obtain ⟨i, hi, rfl⟩ := hmem u hu
    obtain ⟨last, -, hparse⟩ := (hcalls.reports i (hlt i hi)).last
    exact parseTokenUsage_valid hparse
  obtain ⟨hsum, haccepted⟩ := turnSample_sums (pj.pricing (deliveryModel c thread turn t₀)) thread turn
    (deliveryModel c thread turn t₀) hsums hne hvalid hfits
  refine ⟨_, ?_, hsum⟩
  unfold ledgerSample summarizeTurn
  rw [hp, ok_bind, if_neg hnonzero, haccepted]
  rfl

theorem journal_lt {js : List Nat} (hlt : ∀ i ∈ js, i < calls.length) {i : Nat} (hi : i < calls.length)
    (f : Nat → Bool) : ∀ k ∈ journal f js i, k < calls.length := by
  unfold journal
  split
  · exact hlt
  · exact fun k hk => (List.mem_append.1 hk).elim (hlt k) (fun hk => List.mem_singleton.1 hk ▸ hi)

theorem journal_ne_nil (f : Nat → Bool) (js : List Nat) (i : Nat) : journal f js i ≠ [] := by
  unfold journal
  split
  · rename_i hold
    rw [Bool.and_eq_true, List.contains_iff_mem] at hold
    exact List.ne_nil_of_mem hold.2
  · simp

/-- **One delivery**: the sample of the turn is the sum of what is counted. -/
theorem TurnCalls.deliver (hcalls : TurnCalls pj c thread turn calls t₀)
    (hfresh : FreshTurn c thread turn (payloads pj calls) t₀) {t : Tables} {js : List Nat}
    (h : Heard c thread turn (payloads pj calls) t₀ t (js.map (payloadOf pj calls))) (hlt : ∀ i ∈ js, i < calls.length)
    {d : Nat × Int} (hd : d.1 < calls.length)
    (hfits : Fits t₀ ((counted none (journal (sequenced pj calls) js d.1)).map (usageOf calls))) :
    Heard c thread turn (payloads pj calls) t₀ (Session.deliver pj c calls t d)
      ((journal (sequenced pj calls) js d.1).map (payloadOf pj calls)) ∧
    SampleIs turn (Session.deliver pj c calls t d)
      ((counted none (journal (sequenced pj calls) js d.1)).map (usageOf calls)) := by
  have hq : calls[d.1]? = some calls[d.1] := List.getElem?_eq_getElem hd
  have hdeliver : Session.deliver pj c calls t d =
      (ingestNotification pj (usageUpdate c calls[d.1].payload) d.2 t).2 := by
    simp only [Session.deliver, hq]
  have hjournal := journal_payloads hcalls hlt hd
  have hknown := payloadOf_known pj hd
  rw [payloadOf_some hq] at hjournal hknown
  obtain ⟨-, h₁, -⟩ := h.append hfresh hknown d.2
  obtain ⟨s, hled, hsum⟩ := hcalls.sample (h₁.rows.trans hjournal.symm) (journal_ne_nil _ _ _) (journal_lt hlt hd _) hfits
  obtain ⟨-, hheard, hsample⟩ := h.ingest hfresh hknown hled (fun r hr agent => by
    cases hr
    have htokens := hfits.tokens agent
    rw [sampleTokens, hsum.total]
    split <;> omega)
  rw [hdeliver, hjournal]
  exact ⟨hheard, s, hsample, hsum⟩

/-! ## All deliveries -/

theorem counted_journal_prefix (f : Nat → Bool) (js : List Nat) (i : Nat) :
    counted none js <+: counted none (journal f js i) := by
  unfold journal
  split
  · exact List.prefix_refl _
  · rw [counted_snoc]
    exact List.prefix_append _ _

theorem deliveries_sum (hcalls : TurnCalls pj c thread turn calls t₀)
    (hfresh : FreshTurn c thread turn (payloads pj calls) t₀) (ds : List (Nat × Int)) (hlt : ∀ d ∈ ds, d.1 < calls.length)
    (hfits : Fits t₀ ((counted none (journalled (sequenced pj calls) (ds.map Prod.fst))).map (usageOf calls))) :
    (∀ i ∈ journalled (sequenced pj calls) (ds.map Prod.fst), i < calls.length) ∧
    Heard c thread turn (payloads pj calls) t₀ (ds.foldl (Session.deliver pj c calls) t₀)
      ((journalled (sequenced pj calls) (ds.map Prod.fst)).map (payloadOf pj calls)) ∧
    (ds ≠ [] → SampleIs turn (ds.foldl (Session.deliver pj c calls) t₀)
      ((counted none (journalled (sequenced pj calls) (ds.map Prod.fst))).map (usageOf calls))) := by
  induction ds using List.reverseRecOn with
  | nil => exact ⟨fun i hi => (by cases hi), hfresh.heard, fun h => absurd rfl h⟩
  | append_singleton ds d ih =>
    rw [List.map_append, List.map_singleton, journalled_snoc] at hfits ⊢
    rw [List.foldl_append]
    have hlonger := counted_journal_prefix (sequenced pj calls) (journalled (sequenced pj calls) (ds.map Prod.fst)) d.1
    obtain ⟨hlt', hdone, -⟩ := ih (fun e he => hlt e (List.mem_append_left _ he))
      (hfits.sublist (hlonger.sublist.map _))
    have hd := hlt d (List.mem_append_right _ (List.mem_singleton_self d))
    obtain ⟨hnext, hsample⟩ := hcalls.deliver hfresh hdone hlt' hd hfits
    exact ⟨journal_lt hlt' hd _, hnext, fun _ => hsample⟩

theorem journalled_sublist (f : Nat → Bool) (ds : List Nat) : (journalled f ds).Sublist ds := by
  induction ds using List.reverseRecOn with
  | nil => exact List.Sublist.slnil
  | append_singleton ds i ih =>
    rw [journalled_snoc, journal]
    split
    · exact ih.trans (List.sublist_append_left ds [i])
    · exact ih.append (List.Sublist.refl [i])

theorem range_usages : (List.range calls.length).map (usageOf calls) = calls.map ModelCall.usage := by
  refine List.ext_getElem (by simp) (fun i hi hi' => ?_)
  rw [List.length_map] at hi'
  rw [List.getElem_map, List.getElem_range, List.getElem_map, usageOf_some (List.getElem?_eq_getElem hi')]

/-- **Turn usage counts every call once exactly when every repeat follows its own call**, where a report with a sequence is
not repeated in the journal at all.  The first part needs the sums of the calls to fit, the second those of all deliveries. -/
theorem turn_usage_counts_once (hcalls : TurnCalls pj c thread turn calls t₀)
    (hfresh : FreshTurn c thread turn (payloads pj calls) t₀) (hne : calls ≠ []) (ds : List (Nat × Int))
    (hds : Delivers calls.length (ds.map Prod.fst)) :
    (Direct (journalled (sequenced pj calls) (ds.map Prod.fst)) → Fits t₀ (calls.map ModelCall.usage) →
      SampleIs turn (ds.foldl (deliver pj c calls) t₀) (calls.map ModelCall.usage)) ∧
    (Fits t₀ ((ds.map Prod.fst).map (usageOf calls)) →
      SampleIs turn (ds.foldl (deliver pj c calls) t₀) (calls.map ModelCall.usage) →
      Direct (journalled (sequenced pj calls) (ds.map Prod.fst))) := by
  have hlt : ∀ d ∈ ds, d.1 < calls.length := fun d hd => (hds.mem d.1).1 (List.mem_map_of_mem hd)
  have hsome : ds ≠ [] := by
    rintro rfl
    exact absurd ((hds.mem 0).2 (List.length_pos_of_ne_nil hne)) (by simp)
  have hcounted := counted_deliveries (sequenced pj calls) hds
  constructor
  · intro hdirect hfits
    have hc := (hcounted.resolve_right (fun h => h.1 hdirect)).2
    have hsum := (deliveries_sum hcalls hfresh ds hlt (by rw [hc, range_usages]; exact hfits)).2.2 hsome
    rw [hc, range_usages] at hsum
    exact hsum
  · intro hfits hsample
    refine (hcounted.resolve_right ?_).1
    rintro ⟨-, extra, hextra, hextralt, hperm⟩
    have hall := (deliveries_sum hcalls hfresh ds hlt (hfits.sublist
      (((counted_sublist none _).trans (journalled_sublist _ _)).map _))).2.2 hsome
    obtain ⟨s, hs, hsum⟩ := hsample
    obtain ⟨s', hs', hsum'⟩ := hall
    rw [hs] at hs'
    cases hs'
    -- the calls counted again have positive usages
    obtain ⟨i, extra', rfl⟩ := List.exists_cons_of_ne_nil hextra
    have hi := List.getElem?_eq_getElem (hextralt i List.mem_cons_self)
    have hpos := hcalls.positive _ (List.mem_of_getElem? hi)
    have htotal := (((hperm.map (usageOf calls)).map TokenUsage.totalTokens)).sum_nat
    rw [List.map_append, range_usages, List.map_append, List.sum_append, List.map_cons, List.map_cons, List.sum_cons,
      usageOf_some hi] at htotal
    have hboth := hsum.total.symm.trans hsum'.total
    omega

end Turn

/-! ## Two calls -/

def agentContext : ProjectionContext := ⟨some "run", some "agent"⟩

def modelCall (tokens sum : Nat) : ModelCall where
  payload := .obj [("threadId", .str "thread"),
    ("tokenUsage", .obj [("last", .obj [("totalTokens", .num (.pos tokens))]),
      ("total", .obj [("totalTokens", .num (.pos sum))])]),
    ("turnId", .str "turn")]
  usage := ⟨0, 0, none, 0, 0, tokens, none⟩

def twoCalls : List ModelCall := [modelCall 10 10, modelCall 5 15]

theorem twoCalls_turn : TurnCalls noRedaction agentContext "thread" "turn" twoCalls completedAgent := by
  refine ⟨by decide, fun i hi => ?_, fun i hi j hj hs => ?_⟩
  · rcases i with _ | _ | i
    · exact ⟨⟨_, rfl, by decide⟩, by decide, _, rfl⟩
    · exact ⟨⟨_, rfl, by decide⟩, by decide, _, rfl⟩
    · have hlt : i + 1 + 1 < 2 := hi
      omega
  · have hnone : ∀ i < 2, sequenced noRedaction twoCalls i = false := by decide
    rw [hnone i hi] at hs
    cases hs

theorem twoCalls_fresh : FreshTurn agentContext "thread" "turn" (payloads noRedaction twoCalls) completedAgent := by
  refine ⟨by decide, by decide, by decide, rfl, rfl, fun p hp seq hseq => ?_⟩
  have hnone : ∀ p ∈ payloads noRedaction twoCalls, sequenceOf p = none := by decide
  rw [hnone p hp] at hseq
  cases hseq

theorem completedAgent_fits {us : List TokenUsage} (hinput : (us.map TokenUsage.inputTokens).sum ≤ 1000)
    (houtput : (us.map TokenUsage.outputTokens).sum ≤ 1000) (htotal : (us.map TokenUsage.totalTokens).sum ≤ 1000) :
    Fits completedAgent us := by
  have hnone : ∀ agent, agentTokens completedAgent agent = 0 := by
    intro agent
    rw [agentTokens_eq]
    rfl
  refine ⟨?_, ?_, ?_, fun agent => ?_⟩ <;> simp only [hnone, i64Max] <;> omega

/-- The first call comes twice, then the second one. -/
theorem turn_usage_counts_once_twoCalls :
    SampleIs "turn" ([(0, 1), (0, 2), (1, 3)].foldl (deliver noRedaction agentContext twoCalls) completedAgent)
      (twoCalls.map ModelCall.usage) := by
  have hds : Delivers 2 [0, 0, 1] := .first (.again (.first .none) (Nat.zero_lt_one))
  refine (turn_usage_counts_once twoCalls_turn twoCalls_fresh (by simp [twoCalls]) [(0, 1), (0, 2), (1, 3)] hds).1 ?_
    (completedAgent_fits (by decide) (by decide) (by decide))
  have hjournal : journalled (sequenced noRedaction twoCalls) [0, 0, 1] = [] ++ [0] ++ [0] ++ [1] := by decide
  have hempty : Direct [] := fun pre i post h => by simp at h
  refine hjournal ▸ ?_
  rw [direct_snoc, direct_snoc, direct_snoc]
  exact ⟨⟨⟨hempty, by simp⟩, by simp⟩, by simp⟩

/-- **The first call comes again after the second one, and is counted twice.** -/
theorem late_repeat_counts_twice :
    TurnCalls noRedaction agentContext "thread" "turn" twoCalls completedAgent ∧
    FreshTurn agentContext "thread" "turn" (payloads noRedaction twoCalls) completedAgent ∧ Delivers twoCalls.length [0, 1, 0] ∧
    ¬ SampleIs "turn" ([(0, 1), (1, 2), (0, 3)].foldl (deliver noRedaction agentContext twoCalls) completedAgent)
      (twoCalls.map ModelCall.usage) := by
  refine ⟨twoCalls_turn, twoCalls_fresh, .again (.first (.first .none)) (by decide), ?_⟩
  rintro ⟨s, hs, hsum⟩
  have htotal : (([(0, 1), (1, 2), (0, 3)].foldl (deliver noRedaction agentContext twoCalls) completedAgent).samples.get
      "turn").map TokenSample.totalTokens = some 25 := by decide
  rw [hs, Option.map_some, hsum.total] at htotal
  revert htotal
  decide

end Session
end Bildr
