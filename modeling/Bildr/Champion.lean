import Bildr.ImprovementLedger
/-!
# Champion — the policy bundle a scope is bound to

Bindings are append-only and numbered within their scope; a new one names the binding it expects to replace.  Policy
bundles are revisions of the improvement ledger, which other calls extend between the bindings.
-/
namespace Bildr
namespace Champion

open Improvement (Wire readImprovementRevision)
open Json (Value)
open Trace

structure Scope where
  repositoryId : String
  taskFamily : String
  modelFamily : String
  runtimeClass : String
deriving DecidableEq

/-- A row of `policy_champion_bindings`. -/
structure Binding where
  id : String
  scope : Scope
  sequence : Nat
  policyBundleRevisionId : String
  bundleSha256 : String
  previousBindingId : Option String
  idempotencyKey : String
  createdAt : Int
deriving DecidableEq

structure NewPolicyChampionBinding where
  id : String
  repositoryId : String
  taskFamily : String
  modelFamily : Option String
  runtimeClass : Option String
  policyBundleRevisionId : String
  expectedSafetyAnchorDigest : String
  expectedPreviousBindingId : Option String
  idempotencyKey : String

def NewPolicyChampionBinding.scope (i : NewPolicyChampionBinding) : Scope :=
  ⟨i.repositoryId, i.taskFamily, i.modelFamily.getD "", i.runtimeClass.getD ""⟩

structure PolicyChampionBinding where
  id : String
  repositoryId : String
  taskFamily : String
  modelFamily : Option String
  runtimeClass : Option String
  policyBundleRevisionId : String
  bundleSha256 : String
  previousBindingId : Option String
deriving DecidableEq

structure Tables where
  repositories : List String
  ledger : Improvement.Tables
  bindings : Table Binding.id

/-! ## Reading -/

structure PolicyBundle where
  repositoryId : String
  taskFamily : String
  safetyAnchorDigest : String
  sha256 : String
deriving DecidableEq

def readField (v : Value) (key : String) : Except StoreError String := okOr (v.findText [key]) .json

def parsePolicyBundle : Improvement.Payload → Except StoreError PolicyBundle
  | .outcome _ => .error .json
  | .other v   => do
    let repository ← readField v "repository_id"
    let family ← readField v "task_family"
    let anchor ← readField v "safety_anchor_digest"
    let digest ← readField v "sha256"
    return ⟨repository, family, anchor, digest⟩

/-- `immutable_revision_wire_tx` of a policy bundle, with the lifecycle state of its row. -/
def policyBundleRevision (w : Wire) (t : Improvement.Tables) (id : String) :
    Except StoreError (PolicyBundle × Improvement.ImprovementState) := do
  let r ← readImprovementRevision w t id
  ensure (decide (r.aggregateKind = .policyBundle) && decide (r.schema.kind = .policyBundle))
    (.conflict "immutable revision kind mismatch")
  let bundle ← parsePolicyBundle r.payload
  return (bundle, r.state)

def nonempty (s : String) : Option String := if s = "" then none else some s

def Binding.record (b : Binding) : PolicyChampionBinding :=
  ⟨b.id, b.scope.repositoryId, b.scope.taskFamily, nonempty b.scope.modelFamily, nonempty b.scope.runtimeClass,
    b.policyBundleRevisionId, b.bundleSha256, b.previousBindingId⟩

def readPolicyBinding (t : Tables) (id : String) : Except StoreError PolicyChampionBinding := do
  let b ← okOr (t.bindings.get id) (.notFound id)
  return b.record

def bindingsOf (t : Tables) (scope : Scope) : List Binding := t.bindings.rows.filter (fun b => decide (b.scope = scope))

def maxSequence (t : Tables) (scope : Scope) : Nat := Table.maxOf Binding.sequence (bindingsOf t scope)

def currentChampion (t : Tables) (scope : Scope) : Option Binding :=
  (bindingsOf t scope).find? (fun b => b.sequence == maxSequence t scope)

def bindingByKey (t : Tables) (key : String) : Option Binding :=
  t.bindings.rows.find? (fun b => b.idempotencyKey == key)

/-! ## Binding -/

def validDigest (value : String) : Except StoreError Unit :=
  ensure (Improvement.isLowerHex value 64) (.validation "invalid evaluation digest")

def validScopePart (value : Option String) : Bool := value.all (fun v => (Improvement.safeEvalId v 128).isOk)

/-- Everything that is checked before the tables of bindings are read; gives the bundle's digest. -/
def checkBinding (w : Wire) (t : Improvement.Tables) (i : NewPolicyChampionBinding) : Except StoreError String := do
  Improvement.safeEvalId i.id 128
  Improvement.safeEvalId i.taskFamily 128
  Improvement.safeEvalId i.policyBundleRevisionId 128
  Improvement.safeEvalId i.idempotencyKey 200
  validDigest i.expectedSafetyAnchorDigest
  let (bundle, state) ← policyBundleRevision w t i.policyBundleRevisionId
  ensure (bundle.repositoryId == i.repositoryId && bundle.taskFamily == i.taskFamily &&
    bundle.safetyAnchorDigest == i.expectedSafetyAnchorDigest) (.conflict "policy bundle scope mismatch")
  ensure (decide (state = .proposed)) (.conflict "champion bundle lifecycle is not admissible")
  ensure (validScopePart i.modelFamily && validScopePart i.runtimeClass) (.validation "invalid champion binding scope")
  return bundle.sha256

def replayBinding (t : Tables) (i : NewPolicyChampionBinding) (sha256 : String) (existing : Binding) :
    Except StoreError PolicyChampionBinding := do
  let out ← readPolicyBinding t existing.id
  ensure (existing.id == i.id && out.repositoryId == i.repositoryId && out.taskFamily == i.taskFamily &&
    out.modelFamily.getD "" == i.modelFamily.getD "" && out.runtimeClass.getD "" == i.runtimeClass.getD "" &&
    out.policyBundleRevisionId == i.policyBundleRevisionId && out.bundleSha256 == sha256 &&
    decide (out.previousBindingId = i.expectedPreviousBindingId)) (.conflict "policy binding idempotency collision")
  return out

def NewPolicyChampionBinding.row (i : NewPolicyChampionBinding) (sequence : Nat) (sha256 : String) (prior : Option String)
    (now : Int) : Binding :=
  ⟨i.id, i.scope, sequence, i.policyBundleRevisionId, sha256, prior, i.idempotencyKey, now⟩

/-- The constraints, foreign keys and the trigger of `policy_champion_bindings`. -/
def insertBinding (t : Tables) (b : Binding) : Except StoreError Tables := do
  require (t.repositories.contains b.scope.repositoryId && decide (1 ≤ b.sequence) &&
    Improvement.isLowerHex b.bundleSha256 64 &&
    (t.ledger.revisions.get b.policyBundleRevisionId).any (fun r =>
      decide (r.aggregateKind = .policyBundle) && decide (r.schema = .policyBundleV1)) &&
    b.previousBindingId.all (fun p => (t.bindings.get p).isSome) &&
    !t.bindings.rows.any (fun q => q.idempotencyKey == b.idempotencyKey ||
      (decide (q.scope = b.scope) && q.sequence == b.sequence)))
  let bindings ← insertRow t.bindings b
  return { t with bindings := bindings }

def bindNew (i : NewPolicyChampionBinding) (sha256 : String) (now : Int) (t : Tables) :
    Except StoreError (PolicyChampionBinding × Tables) := do
  let prior := (currentChampion t i.scope).map Binding.id
  ensure (decide (prior = i.expectedPreviousBindingId)) (.conflict "stale policy champion binding")
  let t ← insertBinding t (i.row (maxSequence t i.scope + 1) sha256 prior now)
  let out ← readPolicyBinding t i.id
  return (out, t)

def bindChampionPolicy (w : Wire) (i : NewPolicyChampionBinding) (now : Int) : Call Tables PolicyChampionBinding :=
  transaction (fun t => do
    let sha256 ← checkBinding w t.ledger i
    match bindingByKey t i.idempotencyKey with
    | some existing => do
      let out ← replayBinding t i sha256 existing
      return (out, t)
    | none => bindNew i sha256 now t)

def currentChampionPolicyScoped (w : Wire) (t : Tables) (repositoryId taskFamily : String)
    (modelFamily runtimeClass : Option String) :
    Except StoreError (Option (PolicyBundle × Improvement.ImprovementState)) := do
  Improvement.safeEvalId taskFamily 128
  ensure (validScopePart modelFamily && validScopePart runtimeClass) (.validation "invalid champion scope")
  match currentChampion t ⟨repositoryId, taskFamily, modelFamily.getD "", runtimeClass.getD ""⟩ with
  | none   => return none
  | some b => do
    let bundle ← policyBundleRevision w t.ledger b.policyBundleRevisionId
    return some bundle

/-! ## What a call does -/

/-- The next binding of its scope was appended, after the one that was current. -/
structure Bound (t t' : Tables) (i : NewPolicyChampionBinding) (b : Binding) : Prop where
  scope : b.scope = i.scope
  id : b.id = i.id
  key : b.idempotencyKey = i.idempotencyKey
  bundle : b.policyBundleRevisionId = i.policyBundleRevisionId
  number : b.sequence = maxSequence t i.scope + 1
  previous : b.previousBindingId = (currentChampion t i.scope).map Binding.id
  expected : b.previousBindingId = i.expectedPreviousBindingId
  fresh : bindingByKey t i.idempotencyKey = none
  rows : t'.bindings.rows = t.bindings.rows ++ [b]
  ledger : t'.ledger = t.ledger

theorem bindNew_ok {i : NewPolicyChampionBinding} {sha256 : String} {now : Int} {t t' : Tables}
    {out : PolicyChampionBinding} (hkey : bindingByKey t i.idempotencyKey = none)
    (h : bindNew i sha256 now t = .ok (out, t')) :
    ∃ b, Bound t t' i b ∧ b.bundleSha256 = sha256 ∧ out = b.record := by
  unfold bindNew at h
  obtain ⟨_, hprior, h⟩ := bind_ok h
  obtain ⟨t₁, h₁, h⟩ := bind_ok h
  obtain ⟨o, ho, h⟩ := bind_ok h
  cases h
  unfold insertBinding at h₁
  obtain ⟨_, -, h₁⟩ := bind_ok h₁
  obtain ⟨bindings, hb, h₁⟩ := bind_ok h₁
  cases h₁
  have hrows := (Table.insert_some (insertRow_ok hb)).2
  have hprior : (currentChampion t i.scope).map Binding.id = i.expectedPreviousBindingId := by simpa using ensure_ok hprior
  refine ⟨i.row (maxSequence t i.scope + 1) sha256 ((currentChampion t i.scope).map Binding.id) now,
    ⟨rfl, rfl, rfl, rfl, rfl, rfl, hprior, hkey, hrows, rfl⟩, rfl, ?_⟩
  -- the row read back is the one written
  unfold readPolicyBinding at ho
  obtain ⟨b, hbget, ho⟩ := bind_ok ho
  cases ho
  have hget : bindings.get i.id = some (i.row (maxSequence t i.scope + 1) sha256
      ((currentChampion t i.scope).map Binding.id) now) :=
    Table.get_some.2 ⟨by rw [hrows]; exact List.mem_append_right _ List.mem_cons_self, rfl⟩
  rw [Option.some.inj ((okOr_ok hbget).symm.trans hget)]

theorem bind_cases (w : Wire) (i : NewPolicyChampionBinding) (now : Int) (t : Tables) :
    (bindChampionPolicy w i now t).2 = t ∨ ∃ b, Bound t (bindChampionPolicy w i now t).2 i b := by
  unfold bindChampionPolicy
  rcases transaction_cases _ t with ⟨e, -, ht⟩ | ⟨out, t', hb, ht⟩
  · rw [ht]
    exact Or.inl rfl
  · rw [ht]
    obtain ⟨sha256, -, hb⟩ := bind_ok hb
    cases hk : bindingByKey t i.idempotencyKey with
    | some existing =>
      rw [hk] at hb
      obtain ⟨_, -, hb⟩ := bind_ok hb
      cases hb
      exact Or.inl rfl
    | none =>
      rw [hk] at hb
      obtain ⟨b, hbound, -⟩ := bindNew_ok hk hb
      exact Or.inr ⟨b, hbound⟩

/-! ## Bindings chain -/

/-- The binding is the first of its scope, or names the one numbered before it. -/
def Follows (t : Tables) (b : Binding) : Prop :=
  (b.sequence = 1 ∧ b.previousBindingId = none) ∨
    ∃ a ∈ bindingsOf t b.scope, a.sequence + 1 = b.sequence ∧ b.previousBindingId = some a.id

structure ChainInv (t : Tables) : Prop where
  numbered : ∀ scope, (bindingsOf t scope).map Binding.sequence = List.range' 1 (bindingsOf t scope).length
  follows : ∀ b ∈ t.bindings.rows, Follows t b

theorem mem_bindingsOf {t : Tables} {scope : Scope} {b : Binding} :
    b ∈ bindingsOf t scope ↔ b ∈ t.bindings.rows ∧ b.scope = scope := by
  unfold bindingsOf
  rw [List.mem_filter, decide_eq_true_eq]

theorem ChainInv.currentChampion_eq {t : Tables} (h : ChainInv t) (scope : Scope) :
    currentChampion t scope = (bindingsOf t scope).getLast? := by
  unfold currentChampion maxSequence
  rw [Table.maxOf_numbered Binding.sequence _ (h.numbered scope)]
  exact Table.find_numbered Binding.sequence _ (h.numbered scope)

theorem currentChampion_sequence {t : Tables} {scope : Scope} {b : Binding}
    (hb : currentChampion t scope = some b) : b ∈ bindingsOf t scope ∧ b.sequence = maxSequence t scope := by
  unfold currentChampion at hb
  exact ⟨List.mem_of_find?_eq_some hb, by simpa using List.find?_some hb⟩

theorem Bound.bindingsOf_eq {t t' : Tables} {i : NewPolicyChampionBinding} {b : Binding} (h : Bound t t' i b)
    (scope : Scope) : bindingsOf t' scope = bindingsOf t scope ++ if b.scope = scope then [b] else [] := by
  unfold bindingsOf
  rw [h.rows, List.filter_append, List.filter_singleton]
  by_cases hs : b.scope = scope
  · simp [hs]
  · simp [hs]

theorem Bound.inv {t t' : Tables} {i : NewPolicyChampionBinding} {b : Binding} (h : Bound t t' i b) (hi : ChainInv t) :
    ChainInv t' := by
  have hkeep : ∀ q scope, q ∈ bindingsOf t scope → q ∈ bindingsOf t' scope := by
    intro q scope hq
    rw [h.bindingsOf_eq]
    exact List.mem_append_left _ hq
  refine ⟨fun scope => ?_, fun q hq => ?_⟩
  · rw [h.bindingsOf_eq]
    by_cases hs : b.scope = scope
    · rw [if_pos hs]
      refine Table.numbered_concat Binding.sequence (hi.numbered scope) ?_
      rw [h.number, ← h.scope, hs]
      rfl
    · rw [if_neg hs, List.append_nil]
      exact hi.numbered scope
  · rw [h.rows] at hq
    rcases List.mem_append.1 hq with hq | hq
    · rcases hi.follows q hq with hfirst | ⟨a, ha, hseq, hprev⟩
      · exact Or.inl hfirst
      · exact Or.inr ⟨a, hkeep a q.scope ha, hseq, hprev⟩
    · obtain rfl := List.mem_singleton.1 hq
      cases hc : currentChampion t i.scope with
      | none =>
        -- no champion, so the scope has no binding yet
        have hempty : bindingsOf t i.scope = [] := by
          rw [hi.currentChampion_eq] at hc
          exact List.getLast?_eq_none_iff.1 hc
        refine Or.inl ⟨?_, by rw [h.previous, hc]; rfl⟩
        rw [h.number, maxSequence, hempty]
        rfl
      | some a =>
        obtain ⟨ha, hseq⟩ := currentChampion_sequence hc
        refine Or.inr ⟨a, ?_, by rw [h.number, hseq], by rw [h.previous, hc]; rfl⟩
        rw [h.scope]
        exact hkeep a i.scope ha

theorem ChainInv.unique {t : Tables} (h : ChainInv t) {scope : Scope} {b b' : Binding} (hb : b ∈ bindingsOf t scope)
    (hb' : b' ∈ bindingsOf t scope) (hprev : b.previousBindingId = b'.previousBindingId) : b = b' := by
  have hnodup : ((bindingsOf t scope).map Binding.sequence).Nodup := by
    rw [h.numbered]
    exact List.nodup_range'
  refine List.inj_on_of_nodup_map hnodup hb hb' ?_
  obtain ⟨hrow, rfl⟩ := mem_bindingsOf.1 hb
  obtain ⟨hrow', hscope⟩ := mem_bindingsOf.1 hb'
  rcases h.follows b hrow with ⟨hseq, hp⟩ | ⟨a, ha, hseq, hp⟩
  · rcases h.follows b' hrow' with ⟨hseq', -⟩ | ⟨a', -, -, hp'⟩
    · rw [hseq, hseq']
    · rw [hp, hp'] at hprev
      cases hprev
  · rcases h.follows b' hrow' with ⟨-, hp'⟩ | ⟨a', ha', hseq', hp'⟩
    · rw [hp, hp'] at hprev
      cases hprev
    · rw [hp, hp'] at hprev
      have haa : a = a' := List.inj_on_of_nodup_map t.bindings.nodup (mem_bindingsOf.1 ha).1 (mem_bindingsOf.1 ha').1
        (Option.some.inj hprev)
      rw [← hseq, ← hseq', haa]

/-! ## Runs -/

inductive Op
  | bind (i : NewPolicyChampionBinding) (now : Int)
  | ledgerCall (o : Improvement.Op)

def step (w : Wire) (t : Tables) : Op → Tables
  | .bind i now   => (bindChampionPolicy w i now t).2
  | .ledgerCall o => { t with ledger := Improvement.step w t.ledger o }

theorem step_chain (w : Wire) {t : Tables} (h : ChainInv t) (o : Op) : ChainInv (step w t o) := by
  cases o with
  | bind i now =>
    rcases bind_cases w i now t with ht | ⟨b, hb⟩
    · simp only [step, ht]
      exact h
    · exact hb.inv h
  | ledgerCall o => exact ⟨h.numbered, h.follows⟩

theorem run_chain (w : Wire) : ∀ (ops : List Op) {t : Tables}, ChainInv t → ChainInv (run (step w) t ops)
  | [], _, h => h
  | o :: ops, _, h => run_chain w ops (step_chain w h o)

structure Grows (t t' : Tables) : Prop where
  bindings : t.bindings.rows <+: t'.bindings.rows
  ledger : Improvement.Extends t.ledger t'.ledger

theorem step_grows (w : Wire) (t : Tables) (o : Op) : Grows t (step w t o) := by
  cases o with
  | bind i now =>
    rcases bind_cases w i now t with ht | ⟨b, hb⟩
    · simp only [step, ht]
      exact ⟨List.prefix_refl _, Improvement.extends_refl _⟩
    · refine ⟨?_, ?_⟩
      · rw [step, hb.rows]
        exact List.prefix_append _ _
      · rw [step, hb.ledger]
        exact Improvement.extends_refl _
  | ledgerCall o => exact ⟨List.prefix_refl _, Improvement.step_extends w t.ledger o⟩

theorem run_grows (w : Wire) : ∀ (ops : List Op) (t : Tables), Grows t (run (step w) t ops)
  | [], _ => ⟨List.prefix_refl _, Improvement.extends_refl _⟩
  | o :: ops, t =>
    have h := step_grows w t o
    have h' := run_grows w ops (step w t o)
    ⟨h.bindings.trans h'.bindings, Improvement.extends_trans h.ledger h'.ledger⟩

/-! ## Answers -/

/-- The binding the request made is stored under its key, and it is the answer. -/
structure Answers (w : Wire) (t : Tables) (i : NewPolicyChampionBinding) (out : PolicyChampionBinding) (b : Binding) :
    Prop where
  check : checkBinding w t.ledger i = .ok b.bundleSha256
  key : bindingByKey t i.idempotencyKey = some b
  id : b.id = i.id
  scope : b.scope = i.scope
  bundle : b.policyBundleRevisionId = i.policyBundleRevisionId
  previous : b.previousBindingId = i.expectedPreviousBindingId
  out : out = b.record

theorem nonempty_getD (s : String) : (nonempty s).getD "" = s := by
  unfold nonempty
  split
  · rename_i h
    rw [h]
    rfl
  · rfl

theorem bindingByKey_mem {t : Tables} {key : String} {b : Binding} (h : bindingByKey t key = some b) :
    b ∈ t.bindings.rows := List.mem_of_find?_eq_some h

theorem replayBinding_ok {t : Tables} {i : NewPolicyChampionBinding} {sha256 : String} {b : Binding}
    {out : PolicyChampionBinding} (hb : b ∈ t.bindings.rows) (h : replayBinding t i sha256 b = .ok out) :
    out = b.record ∧ b.id = i.id ∧ b.scope = i.scope ∧ b.policyBundleRevisionId = i.policyBundleRevisionId ∧
      b.bundleSha256 = sha256 ∧ b.previousBindingId = i.expectedPreviousBindingId := by
  unfold replayBinding at h
  obtain ⟨o, ho, h⟩ := bind_ok h
  obtain ⟨_, hsame, h⟩ := bind_ok h
  cases h
  unfold readPolicyBinding at ho
  rw [Table.get_of_mem hb] at ho
  cases ho
  have hsame := ensure_ok hsame
  simp only [Binding.record, nonempty_getD, Bool.and_eq_true, beq_iff_eq] at hsame
  obtain ⟨⟨⟨⟨⟨⟨⟨hid, h1⟩, h2⟩, h3⟩, h4⟩, h5⟩, h6⟩, h7⟩ := hsame
  refine ⟨rfl, hid, ?_, h5, h6, of_decide_eq_true h7⟩
  have hscope : b.scope = ⟨b.scope.repositoryId, b.scope.taskFamily, b.scope.modelFamily, b.scope.runtimeClass⟩ := rfl
  rw [hscope, h1, h2, h3, h4]
  rfl

/-- **A request that succeeded is answered by the binding under its key.** -/
theorem bind_answers {w : Wire} {i : NewPolicyChampionBinding} {now : Int} {t : Tables} {out : PolicyChampionBinding}
    (h : (bindChampionPolicy w i now t).1 = .ok out) : ∃ b, Answers w (bindChampionPolicy w i now t).2 i out b := by
  unfold bindChampionPolicy at h ⊢
  rcases transaction_cases _ t with ⟨e, -, ht⟩ | ⟨a, t', hb, ht⟩
  · rw [ht] at h
    cases h
  · rw [ht] at h ⊢
    obtain rfl : a = out := by simpa using h
    obtain ⟨sha256, hcheck, hb⟩ := bind_ok hb
    cases hk : bindingByKey t i.idempotencyKey with
    | some existing =>
      rw [hk] at hb
      obtain ⟨_, hreplay, hb⟩ := bind_ok hb
      cases hb
      obtain ⟨hout, hid, hscope, hbundle, hsha, hprev⟩ := replayBinding_ok (bindingByKey_mem hk) hreplay
      exact ⟨existing, by rw [hsha]; exact hcheck, hk, hid, hscope, hbundle, hprev, hout⟩
    | none =>
      rw [hk] at hb
      obtain ⟨b, hbound, hsha, hout⟩ := bindNew_ok hk hb
      refine ⟨b, by rw [hsha, hbound.ledger]; exact hcheck, ?_, hbound.id, hbound.scope, hbound.bundle, hbound.expected,
        hout⟩
      have hfresh := hbound.fresh
      unfold bindingByKey at hfresh ⊢
      rw [hbound.rows, List.find?_append, hfresh, Option.none_or, List.find?_cons, hbound.key]
      simp

theorem checkBinding_extends {w : Wire} {t t' : Improvement.Tables} (h : Improvement.Extends t t')
    {i : NewPolicyChampionBinding} {sha256 : String} (hc : checkBinding w t i = .ok sha256) :
    checkBinding w t' i = .ok sha256 := by
  unfold checkBinding at hc ⊢
  obtain ⟨_, h1, hc⟩ := bind_ok hc
  obtain ⟨_, h2, hc⟩ := bind_ok hc
  obtain ⟨_, h3, hc⟩ := bind_ok hc
  obtain ⟨_, h4, hc⟩ := bind_ok hc
  obtain ⟨_, h5, hc⟩ := bind_ok hc
  obtain ⟨bundle, hbundle, hc⟩ := bind_ok hc
  -- the bundle is an immutable revision
  have hbundle' : policyBundleRevision w t' i.policyBundleRevisionId = .ok bundle := by
    unfold policyBundleRevision at hbundle ⊢
    obtain ⟨r, hr, hbundle⟩ := bind_ok hbundle
    rw [Improvement.readImprovementRevision_extends h hr, ok_bind]
    exact hbundle
  rw [h1, h2, h3, h4, h5, hbundle']
  exact hc

theorem Answers.grows {w : Wire} {t t' : Tables} {i : NewPolicyChampionBinding} {out : PolicyChampionBinding} {b : Binding}
    (h : Answers w t i out b) (hg : Grows t t') : Answers w t' i out b := by
  refine ⟨checkBinding_extends hg.ledger h.check, ?_, h.id, h.scope, h.bundle, h.previous, h.out⟩
  obtain ⟨l, hl⟩ := hg.bindings
  have hkey := h.key
  unfold bindingByKey at hkey ⊢
  rw [← hl, List.find?_append, hkey, Option.some_or]

/-- **An answered request is answered again, and nothing changes.** -/
theorem Answers.replay {w : Wire} {t : Tables} {i : NewPolicyChampionBinding} {out : PolicyChampionBinding} {b : Binding}
    (h : Answers w t i out b) (now : Int) : bindChampionPolicy w i now t = (.ok out, t) := by
  have hget : t.bindings.get b.id = some b := Table.get_of_mem (bindingByKey_mem h.key)
  have hreplay : replayBinding t i b.bundleSha256 b = .ok out := by
    have hscope := h.scope
    unfold replayBinding readPolicyBinding
    rw [hget, h.out]
    simp only [okOr, ok_bind, pure_ok, Binding.record, nonempty_getD, h.id, hscope, h.bundle, h.previous,
      NewPolicyChampionBinding.scope, beq_self_eq_true, decide_true, Bool.and_self, ensure_true]
  simp only [bindChampionPolicy, transaction, h.check, h.key, hreplay, ok_bind, pure_ok]

/-- **The bindings of a scope are one chain.**  They are numbered from one, each names the one before it, and the current
champion is the last; requests of a scope that expect the same predecessor get the same binding; and a request that
succeeded gets its binding again in every later state, which it does not change. -/
theorem champion_bindings_chained (w : Wire) (repositories : List String) (ledger : Improvement.Tables) (ops : List Op) :
    let t := run (step w) ⟨repositories, ledger, ∅⟩ ops
    (∀ scope, (bindingsOf t scope).map Binding.sequence = List.range' 1 (bindingsOf t scope).length ∧
      (∀ b ∈ bindingsOf t scope, Follows t b) ∧ currentChampion t scope = (bindingsOf t scope).getLast?) ∧
    (∀ i now out, (bindChampionPolicy w i now t).1 = .ok out → ∀ between i' later out',
      let t' := run (step w) (bindChampionPolicy w i now t).2 between
      (bindChampionPolicy w i' later t').1 = .ok out' → i'.scope = i.scope →
        i'.expectedPreviousBindingId = i.expectedPreviousBindingId → out' = out) ∧
    (∀ i now out, (bindChampionPolicy w i now t).1 = .ok out → ∀ between later,
      let t' := run (step w) (bindChampionPolicy w i now t).2 between
      bindChampionPolicy w i later t' = (.ok out, t')) := by
  intro t
  have hempty : ChainInv ⟨repositories, ledger, ∅⟩ := ⟨fun _ => rfl, fun _ hb => absurd hb List.not_mem_nil⟩
  have ht : ChainInv t := run_chain w ops hempty
  refine ⟨fun scope => ⟨ht.numbered scope, fun b hb => ht.follows b (mem_bindingsOf.1 hb).1, ht.currentChampion_eq scope⟩,
    ?_, ?_⟩
  · intro i now out hout between i' later out' t' hout' hscope hprev
    obtain ⟨b, hb⟩ := bind_answers hout
    obtain ⟨b', hb'⟩ := bind_answers hout'
    -- both bindings are in the state after the second request
    have hb₂ : Answers w (bindChampionPolicy w i' later t').2 i out b :=
      (hb.grows (run_grows w between _)).grows (step_grows w t' (.bind i' later))
    have hinv : ChainInv (bindChampionPolicy w i' later t').2 :=
      step_chain w (run_chain w between (step_chain w ht (.bind i now))) (.bind i' later)
    have hsame : b' = b := by
      have hmem' := mem_bindingsOf.2 ⟨bindingByKey_mem hb'.key, hb'.scope.trans hscope⟩
      refine hinv.unique hmem' (mem_bindingsOf.2 ⟨bindingByKey_mem hb₂.key, hb₂.scope⟩) ?_
      rw [hb'.previous, hb₂.previous, hprev]
    rw [hb'.out, hb₂.out, hsame]
  · intro i now out hout between later
    obtain ⟨b, hb⟩ := bind_answers hout
    exact (hb.grows (run_grows w between _)).replay later

/-! A scope bound twice; the digests are those of the bundle's text and of the bundle without its own digest. -/

def bundlePayload : Value :=
  .obj [("bundle_id", .str "bundle-1"),
    ("components", .arr [.obj [("dimension", .str "token_budget"),
      ("manifest_digest", .str "c6cc3346036db0a63462de2f0e15512f2c42d07455f387bb887e603b4f557886"),
      ("risk_class", .str "green")]]),
    ("parent_bundle_id", .null), ("repository_id", .str "repository-1"),
    ("safety_anchor_digest", .str "101707f679b34fcac2d5b434649f9ae1d82d2e3145314dbe276002e11f15f8e8"),
    ("schema", .str "harness.policy-bundle.v1"),
    ("sha256", .str "7f5f0f0b4a781374f29923b8f482eb25c7f20116709be85a06006be1e1a0c20e"), ("task_family", .str "general")]

def bundleWire : Wire where
  sha256 s := if s = bundlePayload.text then "51a44ed05934e9056bdbfcca26f8f89e56da538270fe92c88c959539c442b2c9" else ""
  text
    | .outcome _ => ""
    | .other v   => v.text
  actionText _ := ""
  eventText _ _ := ""
  contract s v := if s = .policyBundleV1 ∧ v = bundlePayload then .ok () else .error .json
  canonicalId _ _ := none
  wireRevision _ _ := none
  references _ _ := .ok ()

def bundleRow : Improvement.Revision :=
  ⟨"bundle-revision-1", .policyBundle, "bundle-1", 1, .policyBundleV1, .proposed, .other bundlePayload,
    "51a44ed05934e9056bdbfcca26f8f89e56da538270fe92c88c959539c442b2c9", .internal, .evaluation, false, none, 1⟩

def bundleTables : Tables :=
  ⟨["repository-1"],
    ⟨⟨[], [], [], [], [], []⟩, ⟨[bundleRow], List.nodup_singleton _⟩, ∅, ∅, 0⟩, ∅⟩

def firstBinding : NewPolicyChampionBinding :=
  ⟨"binding-1", "repository-1", "general", none, some "codex", "bundle-revision-1",
    "101707f679b34fcac2d5b434649f9ae1d82d2e3145314dbe276002e11f15f8e8", none, "bind-1"⟩

def secondBinding : NewPolicyChampionBinding :=
  { firstBinding with id := "binding-2", expectedPreviousBindingId := some "binding-1", idempotencyKey := "bind-2" }

def secondRecord : PolicyChampionBinding :=
  ⟨"binding-2", "repository-1", "general", none, some "codex", "bundle-revision-1",
    "7f5f0f0b4a781374f29923b8f482eb25c7f20116709be85a06006be1e1a0c20e", some "binding-1"⟩

theorem champion_bindings_chained_twice :
    let t := run (step bundleWire) bundleTables [.bind firstBinding 5]
    let t' := (bindChampionPolicy bundleWire secondBinding 9 t).2
    (bindingsOf t' firstBinding.scope).map (fun b => (b.sequence, b.previousBindingId)) =
      [(1, none), (2, some "binding-1")] ∧
    (∀ i' later out', (bindChampionPolicy bundleWire i' later t').1 = .ok out' → i'.scope = secondBinding.scope →
      i'.expectedPreviousBindingId = some "binding-1" → out' = secondRecord) ∧
    ∀ later, bindChampionPolicy bundleWire secondBinding later t' = (.ok secondRecord, t') := by
  have hout : (bindChampionPolicy bundleWire secondBinding 9
      (run (step bundleWire) bundleTables [.bind firstBinding 5])).1 = .ok secondRecord := by decide +kernel
  obtain ⟨-, honce, hreplay⟩ :=
    champion_bindings_chained bundleWire bundleTables.repositories bundleTables.ledger [.bind firstBinding 5]
  refine ⟨by decide +kernel, ?_, ?_⟩
  · intro i' later out' hout'
    exact honce secondBinding 9 secondRecord hout [] i' later out' hout'
  · exact hreplay secondBinding 9 secondRecord hout []

end Champion
end Bildr
