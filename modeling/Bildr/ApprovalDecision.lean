import Bildr.Approval
/-!
# ApprovalDecision — concurrent decisions on one approval

Any number of `decide_approval` calls race on one pending approval.  The update of the write transaction compares the
version, but a call whose update matched no row returns like the one whose update did.  Such a write is `stale`: the
version moved between the call's read and its write.  Without stale writes one call at most succeeds and the record is
its own (`one_decision_per_approval`); a schedule with one, run to its end, breaks this.
-/
namespace Bildr
namespace Approval

open Calls Trace

def inFlight (t : Tables) (id : String) (ds : List Decision) : Pool Tables DecideCall :=
  ⟨t, ds.map (fun d => ⟨id, d, .start⟩)⟩

def DecideCall.landed (c : DecideCall) : Bool :=
  match c.phase with
  | .wrote _ => true
  | .ok _ _  => true
  | _        => false

def DecideCall.returnedOk (c : DecideCall) : Bool :=
  match c.phase with
  | .ok _ _ => true
  | _       => false

def decides (c : DecideCall) (a : ApprovalRow) : Prop :=
  a.decision = some c.input.decision ∧ a.decisionNote = c.input.note ∧ a.decidedBy = some c.input.actor

/-- At most one call succeeded, and the recorded decision and version are the ones it made and returned. -/
structure OneDecision (id : String) (version : Nat) (p : Pool Tables DecideCall) : Prop where
  atMostOne : ∀ i j c c', p.call i = some c → p.call j = some c' →
    c.returnedOk = true → c'.returnedOk = true → i = j
  recorded : ∀ k c r rpc, p.call k = some c → c.phase = .ok r rpc →
    ∃ a, p.shared.approvals.get id = some a ∧ decides c a ∧ a.version = version + 1 ∧
      r.version = a.version ∧ r.decision = a.decision

/-- The call's next step commits its write although the version is not the one it read. -/
def stale (t : Tables) (c : DecideCall) : Bool :=
  match c.phase with
  | .read seen => (pendingRpc t c.id).isSome && fitsI64 seen.version &&
      (t.approvals.get c.id).any (fun a => a.version != seen.version)
  | _ => false

def Fresh (p : Pool Tables DecideCall) (k : Nat) : Prop := (p.call k).any (stale p.shared) = false

instance (p : Pool Tables DecideCall) (k : Nat) : Decidable (Fresh p k) := inferInstanceAs (Decidable (_ = _))

def settled (p : Pool Tables DecideCall) : Bool := p.calls.all (fun c => c.landed == c.returnedOk)

/-! ## The invariant of all schedules -/

/-- The approval is open and no write has landed, or it carries the decision of a call whose write has. -/
structure Inv (id : String) (version : Nat) (p : Pool Tables DecideCall) (a : ApprovalRow) : Prop where
  row : p.shared.approvals.get id = some a
  same : ∀ k c, p.call k = some c → c.id = id
  seen : ∀ k c s, p.call k = some c → c.phase = .read s → s.version = version
  answer : ∀ k c r rpc, p.call k = some c → c.phase = .ok r rpc → r.version = a.version ∧ r.decision = a.decision
  open_or_decided :
    (a.state = .pending ∧ a.version = version ∧ ∀ k c, p.call k = some c → c.landed = false) ∨
    (a.state = .delivering ∧ a.version = version + 1 ∧
      ∃ k c, p.call k = some c ∧ c.landed = true ∧ decides c a)

def Solo (p : Pool Tables DecideCall) : Prop :=
  ∀ i j c c', p.call i = some c → p.call j = some c' → c.landed = true → c'.landed = true → i = j

section Step
variable {id : String} {version : Nat} {p : Pool Tables DecideCall} {a : ApprovalRow} {k : Nat} {c : DecideCall}

theorem inv_quiet (hi : Inv id version p a) (hc : p.call k = some c) (ht : (next p.shared c).1 = p.shared)
    {phase : Phase} (hn : (next p.shared c).2 = { c with phase := phase })
    (hl : ({ c with phase := phase } : DecideCall).landed = c.landed)
    (hr : ∀ s, phase = .read s → s.version = version)
    (ha : ∀ r rpc, phase = .ok r rpc → r.version = a.version ∧ r.decision = a.decision) :
    Inv id version (step next p k) a ∧ (Solo p ↔ Solo (step next p k)) := by
  -- the calls keep what the invariant looks at
  have hkeep : ∀ j d, (step next p k).call j = some d →
      ∃ d₀, p.call j = some d₀ ∧ d.landed = d₀.landed ∧ d.id = d₀.id ∧ d.input = d₀.input := by
    intro j d hd
    rcases step_call_cases hc hd with ⟨rfl, rfl⟩ | ⟨-, hd⟩
    · rw [hn]
      exact ⟨c, hc, hl, rfl, rfl⟩
    · exact ⟨d, hd, rfl, rfl, rfl⟩
  have hback : ∀ j d₀, p.call j = some d₀ →
      ∃ d, (step next p k).call j = some d ∧ d.landed = d₀.landed ∧ d.input = d₀.input := by
    intro j d₀ hd
    by_cases hj : j = k
    · subst hj
      rw [hc] at hd
      cases hd
      refine ⟨{ c with phase := phase }, ?_, hl, rfl⟩
      rw [step_call hc, if_pos rfl, hn]
    · refine ⟨d₀, ?_, rfl, rfl⟩
      rw [step_call hc, if_neg hj, hd]
  refine ⟨⟨?_, ?_, ?_, ?_, ?_⟩, ?_⟩
  · rw [step_shared hc, ht]; exact hi.row
  · intro j d hd
    obtain ⟨d₀, hd₀, -, hid, -⟩ := hkeep j d hd
    rw [hid]
    exact hi.same j d₀ hd₀
  · intro j d s hd hs
    rcases step_call_cases hc hd with ⟨-, rfl⟩ | ⟨-, hd⟩
    · rw [hn] at hs; exact hr s hs
    · exact hi.seen j d s hd hs
  · intro j d r rpc hd hs
    rcases step_call_cases hc hd with ⟨-, rfl⟩ | ⟨-, hd⟩
    · rw [hn] at hs; exact ha r rpc hs
    · exact hi.answer j d r rpc hd hs
  · rcases hi.open_or_decided with ⟨hs, hv, hno⟩ | ⟨hs, hv, j, d, hd, hland, hdec⟩
    · refine Or.inl ⟨hs, hv, fun j d hd => ?_⟩
      obtain ⟨d₀, hd₀, hland, -⟩ := hkeep j d hd
      rw [hland]
      exact hno j d₀ hd₀
    · obtain ⟨d', hd', hl', hin⟩ := hback j d hd
      refine Or.inr ⟨hs, hv, j, d', hd', by rw [hl', hland], ?_⟩
      unfold decides at hdec ⊢
      rw [hin]
      exact hdec
  · refine ⟨fun h i j d d' hd hd' h1 h2 => ?_, fun h i j d d' hd hd' h1 h2 => ?_⟩
    · obtain ⟨e, he, hle, -⟩ := hkeep i d hd
      obtain ⟨e', he', hle', -⟩ := hkeep j d' hd'
      exact h i j e e' he he' (hle ▸ h1) (hle' ▸ h2)
    · obtain ⟨e, he, hle, -⟩ := hback i d hd
      obtain ⟨e', he', hle', -⟩ := hback j d' hd'
      exact h i j e e' he he' (by rw [hle, h1]) (by rw [hle', h2])

theorem fresh_of_not_stale (hc : p.call k = some c) (h : stale p.shared c = false) : Fresh p k := by
  unfold Fresh
  rw [hc]
  exact h

theorem inv_write (hi : Inv id version p a) (hc : p.call k = some c) {s : ApprovalSummary} (hs : c.phase = .read s)
    {rpc : Json.Value} (hrpc : pendingRpc p.shared c.id = some rpc) (hlt : fitsI64 s.version = true)
    (hn : next p.shared c = (recordDecision c.id c.input s.version p.shared, { c with phase := .wrote rpc })) :
    ∃ a', Inv id version (step next p k) a' ∧ ((Fresh p k ∧ Solo p) ↔ Solo (step next p k)) := by
  have hid : a.id = id := Table.key_of_get hi.row
  have hcid : c.id = id := hi.same k c hc
  have hv : s.version = version := hi.seen k c s hc hs
  have hland : c.landed = false := by simp [DecideCall.landed, hs]
  have hstale : stale p.shared c = (a.version != version) := by
    simp only [stale, hs, hrpc, hlt, Option.isSome_some, Bool.true_and]
    rw [hcid, hi.row, Option.any_some, hv]
  have hrow : (step next p k).shared.approvals.get id =
      some (if a.version = version then decided c.input a else a) := by
    rw [step_shared hc, hn, recordDecision, Table.get_update, hi.row, Option.map_some]
    simp only [hid, hcid, hv, beq_self_eq_true, Bool.true_and, beq_iff_eq]
  have hsame : ∀ j d, (step next p k).call j = some d → d.id = id := by
    intro j d hd
    rcases step_call_cases hc hd with ⟨-, rfl⟩ | ⟨-, hd⟩
    · rw [hn]; exact hcid
    · exact hi.same j d hd
  have hseen : ∀ j d s', (step next p k).call j = some d → d.phase = .read s' → s'.version = version := by
    intro j d s' hd hs'
    rcases step_call_cases hc hd with ⟨-, rfl⟩ | ⟨-, hd⟩
    · rw [hn] at hs'; cases hs'
    · exact hi.seen j d s' hd hs'
  have hk : (step next p k).call k = some { c with phase := .wrote rpc } := by
    rw [step_call hc, if_pos rfl, hn]
  rcases hi.open_or_decided with ⟨hst, hver, hno⟩ | ⟨hst, hver, j, d, hd, hdl, hdec⟩
  · -- no write had landed: this one is the first
    rw [hver, bne_self_eq_false] at hstale
    rw [if_pos hver] at hrow
    refine ⟨decided c.input a, ⟨hrow, hsame, hseen, ?_, Or.inr ⟨rfl, ?_, k, _, hk, rfl, rfl, rfl, rfl⟩⟩, ?_⟩
    · intro j d r rpc' hd hp
      rcases step_call_cases hc hd with ⟨-, rfl⟩ | ⟨-, hd⟩
      · rw [hn] at hp; cases hp
      · have := hno j d hd
        simp [DecideCall.landed, hp] at this
    · rw [decided, hver]
    · refine ⟨fun _ i j d d' hd hd' h1 h2 => ?_, fun _ => ⟨fresh_of_not_stale hc hstale, ?_⟩⟩
      · rcases step_call_cases hc hd with ⟨rfl, -⟩ | ⟨-, hd⟩
        · rcases step_call_cases hc hd' with ⟨rfl, -⟩ | ⟨-, hd'⟩
          · rfl
          · rw [hno j d' hd'] at h2; cases h2
        · rw [hno i d hd] at h1; cases h1
      · intro i j d d' hd _ h1 _
        rw [hno i d hd] at h1
        cases h1
  · -- the approval is decided: the update matches no row, and two writes have landed
    have hne : a.version ≠ version := by omega
    rw [if_neg hne] at hrow
    have hj : j ≠ k := by
      rintro rfl
      rw [hc] at hd
      cases hd
      rw [hland] at hdl
      cases hdl
    have hd' : (step next p k).call j = some d := by rw [step_call hc, if_neg hj, hd]
    refine ⟨a, ⟨hrow, hsame, hseen, ?_, Or.inr ⟨hst, hver, j, d, hd', hdl, hdec⟩⟩, ?_⟩
    · intro i e r rpc' he hp
      rcases step_call_cases hc he with ⟨-, rfl⟩ | ⟨-, he⟩
      · rw [hn] at hp; cases hp
      · exact hi.answer i e r rpc' he hp
    · refine ⟨fun h => ?_, fun h => absurd (h j k d _ hd' hk hdl rfl) hj⟩
      have hf := h.1
      unfold Fresh at hf
      rw [hc, Option.any_some, hstale] at hf
      simp [hne] at hf

/-- **Every step keeps the invariant**, and keeps the writes solo exactly when it is no stale write. -/
theorem inv_step (hi : Inv id version p a) (k : Nat) :
    ∃ a', Inv id version (step next p k) a' ∧ ((Fresh p k ∧ Solo p) ↔ Solo (step next p k)) := by
  cases hc : p.call k with
  | none =>
    rw [step_none hc]
    have hf : Fresh p k := by unfold Fresh; rw [hc]; rfl
    exact ⟨a, hi, fun h => h.2, fun h => ⟨hf, h⟩⟩
  | some c =>
    -- a step that lands nothing: the tables stay, and it is not stale
    have hquiet : ∀ phase, next p.shared c = (p.shared, { c with phase := phase }) →
        ({ c with phase := phase } : DecideCall).landed = c.landed → stale p.shared c = false →
        (∀ s, phase = .read s → s.version = version) →
        (∀ r rpc, phase = .ok r rpc → r.version = a.version ∧ r.decision = a.decision) →
        ∃ a', Inv id version (step next p k) a' ∧ ((Fresh p k ∧ Solo p) ↔ Solo (step next p k)) := by
      intro phase hn hl hst hr ha
      obtain ⟨hinv, hsolo⟩ := inv_quiet hi hc (by rw [hn]) (by rw [hn]) hl hr ha
      exact ⟨a, hinv, fun h => hsolo.1 h.2, fun h => ⟨fresh_of_not_stale hc hst, hsolo.2 h⟩⟩
    have hcid : c.id = id := hi.same k c hc
    cases hp : c.phase with
    | start =>
      cases hr : readPending p.shared c.id c.input with
      | error e =>
        exact hquiet (.failed e) (by simp [next, hp, hr]) (by simp [DecideCall.landed, hp]) (by simp [stale, hp])
          (fun _ h => by cases h) (fun _ _ h => by cases h)
      | ok s =>
        obtain ⟨r, hrow, hpend, rfl⟩ := readPending_ok hr
        refine hquiet (.read (mapApproval p.shared.referenced r)) (by simp [next, hp, hr])
          (by simp [DecideCall.landed, hp]) (by simp [stale, hp])
          (fun s hs => ?_) (fun _ _ h => by cases h)
        cases hs
        rw [hcid, hi.row] at hrow
        cases hrow
        rcases hi.open_or_decided with ⟨-, hv, -⟩ | ⟨hst, -⟩
        · exact hv
        · rw [hpend] at hst; cases hst
    | read s =>
      rcases writeDecision_cases c.id c.input s p.shared with ⟨e, hw, hno⟩ | ⟨rpc, hrpc, hlt, hw⟩
      · refine hquiet (.failed e) (by simp [next, hp, hw]) (by simp [DecideCall.landed, hp]) ?_
          (fun _ h => by cases h) (fun _ _ h => by cases h)
        simp only [stale, hp, hno, Bool.false_and]
      · exact inv_write hi hc hp hrpc hlt (by simp [next, hp, hw])
    | wrote rpc =>
      have ha : approval p.shared c.id = .ok (mapApproval p.shared.referenced a) := by
        simp [approval, hcid, hi.row]
      refine hquiet (.ok (mapApproval p.shared.referenced a) rpc) (by simp [next, hp, ha])
        (by simp [DecideCall.landed, hp]) (by simp [stale, hp])
        (fun _ h => by cases h) (fun r rpc' hr => ?_)
      cases hr
      exact ⟨rfl, rfl⟩
    | failed e =>
      exact hquiet (.failed e) (by simp only [next, hp]; rw [← hp]) (by simp [DecideCall.landed, hp]) (by simp [stale, hp])
        (fun _ h => by cases h) (fun _ _ h => by cases h)
    | ok r rpc =>
      refine hquiet (.ok r rpc) (by simp only [next, hp]; rw [← hp]) (by simp [DecideCall.landed, hp]) (by simp [stale, hp])
        (fun _ h => by cases h) (fun r' rpc' h => ?_)
      cases h
      exact hi.answer k c r rpc hc hp

end Step

/-! ## Whole schedules -/

theorem inv_run {id : String} {version : Nat} : ∀ (ks : List Nat) {p : Pool Tables DecideCall} {a : ApprovalRow},
    Inv id version p a → ∃ a', Inv id version (run (step next) p ks) a' ∧
      ((Along (step next) Fresh p ks ∧ Solo p) ↔ Solo (run (step next) p ks))
  | [], p, a, hi => ⟨a, hi, fun h => h.2, fun h => ⟨trivial, h⟩⟩
  | k :: ks, p, a, hi => by
    obtain ⟨a', hi', hsolo⟩ := inv_step hi k
    obtain ⟨b, hb, hrun⟩ := inv_run ks hi'
    refine ⟨b, hb, ?_⟩
    rw [run_cons, ← hrun, ← hsolo, Along]
    constructor
    · rintro ⟨⟨h1, h2⟩, h3⟩
      exact ⟨h2, h1, h3⟩
    · rintro ⟨h2, h1, h3⟩
      exact ⟨⟨h1, h2⟩, h3⟩

theorem landed_of_returnedOk {c : DecideCall} (h : c.returnedOk = true) : c.landed = true := by
  cases hp : c.phase <;> simp [DecideCall.returnedOk, DecideCall.landed, hp] at h ⊢

theorem inv_inFlight {t : Tables} {id : String} {a : ApprovalRow} (hrow : t.approvals.get id = some a)
    (hp : a.state = .pending) (ds : List Decision) : Inv id a.version (inFlight t id ds) a := by
  have hstart : ∀ k c, (inFlight t id ds).call k = some c → c.id = id ∧ c.phase = .start := by
    intro k c hc
    simp only [inFlight, Pool.call, List.getElem?_map, Option.map_eq_some_iff] at hc
    obtain ⟨d, -, rfl⟩ := hc
    exact ⟨rfl, rfl⟩
  refine ⟨hrow, fun k c hc => (hstart k c hc).1, fun k c s hc hs => ?_, fun k c r rpc hc hs => ?_,
    Or.inl ⟨hp, rfl, fun k c hc => ?_⟩⟩
  · rw [(hstart k c hc).2] at hs; cases hs
  · rw [(hstart k c hc).2] at hs; cases hs
  · simp [DecideCall.landed, (hstart k c hc).2]

theorem oneDecision_of_solo {id : String} {version : Nat} {p : Pool Tables DecideCall} {a : ApprovalRow}
    (hi : Inv id version p a) (hs : Solo p) : OneDecision id version p := by
  refine ⟨fun i j c c' hc hc' h h' => hs i j c c' hc hc' (landed_of_returnedOk h) (landed_of_returnedOk h'),
    fun k c r rpc hc hp => ⟨a, hi.row, ?_⟩⟩
  have hl : c.landed = true := by simp [DecideCall.landed, hp]
  rcases hi.open_or_decided with ⟨-, -, hno⟩ | ⟨-, hv, j, d, hd, hdl, hdec⟩
  · rw [hno k c hc] at hl; cases hl
  · obtain rfl := hs j k d c hd hc hdl hl
    rw [hd] at hc
    cases hc
    exact ⟨hdec, hv, hi.answer j c r rpc hd hp⟩

/-- **One decision per pending approval, up to stale writes.**  Along a schedule without them every state has one
decision; and a schedule after which every landed write has been answered has one decision only if it had none. -/
theorem one_decision_per_approval (t : Tables) (id : String) (a : ApprovalRow) (ds : List Decision) (ks : List Nat)
    (hrow : t.approvals.get id = some a) (hp : a.state = .pending) :
    (Along (step next) Fresh (inFlight t id ds) ks →
      ∀ js, js <+: ks → OneDecision id a.version (run (step next) (inFlight t id ds) js)) ∧
    (settled (run (step next) (inFlight t id ds) ks) = true →
      OneDecision id a.version (run (step next) (inFlight t id ds) ks) →
      Along (step next) Fresh (inFlight t id ds) ks) := by
  have hi := inv_inFlight hrow hp ds
  have hsolo : Solo (inFlight t id ds) := by
    rcases hi.open_or_decided with ⟨-, -, hno⟩ | ⟨hst, -⟩
    · intro i j c c' hc _ h _
      rw [hno i c hc] at h
      cases h
    · rw [hp] at hst; cases hst
  refine ⟨fun h js hjs => ?_, fun hset hone => ?_⟩
  · obtain ⟨rest, rfl⟩ := hjs
    obtain ⟨a', hi', hrun⟩ := inv_run js hi
    exact oneDecision_of_solo hi' (hrun.1 ⟨((along_append (step next) Fresh _ js rest).1 h).1, hsolo⟩)
  · obtain ⟨a', hi', hrun⟩ := inv_run ks hi
    refine (hrun.2 (fun i j c c' hc hc' h h' => ?_)).1
    -- once settled, a landed write has returned
    have hok : ∀ k c, (run (step next) (inFlight t id ds) ks).call k = some c → c.landed = true →
        c.returnedOk = true := by
      intro k c hc hl
      have := List.all_eq_true.1 hset c (List.mem_of_getElem? hc)
      rw [beq_iff_eq, hl] at this
      exact this.symm
    exact hone.atMostOne i j c c' hc hc' (hok i c hc h) (hok j c' hc' h')

def waiting : Tables :=
  (createApproval commandApproval (.num (.pos 42)) 7 ⟨⟨["run"], [], [], []⟩, Table.empty, Table.empty⟩).2

def acceptAndDecline : List Decision :=
  [⟨"accept", none, "first", none, 8⟩, ⟨"decline", some "no", "second", some 1, 9⟩]

/-- The first call runs alone; the second reads after its write and is refused. -/
theorem one_decision_per_approval_sequential :
    OneDecision "approval" 1 (run (step next) (inFlight waiting "approval" acceptAndDecline) [0, 0, 1, 0]) ∧
      (run (step next) (inFlight waiting "approval" acceptAndDecline) [0, 0, 1, 0]).calls.map DecideCall.returnedOk =
        [true, false] :=
  ⟨(one_decision_per_approval waiting "approval" (commandApproval.row 7) acceptAndDecline [0, 0, 1, 0]
      (by decide) rfl).1 (by decide) [0, 0, 1, 0] (List.prefix_refl _), by decide⟩

/-- Both calls read before either writes; the second write matches no row, and both calls succeed. -/
theorem two_decisions_on_one_approval :
    waiting.approvals.get "approval" = some (commandApproval.row 7) ∧
      ¬ OneDecision "approval" 1
        (run (step next) (inFlight waiting "approval" acceptAndDecline) [0, 1, 0, 1, 0, 1]) := by
  refine ⟨by decide, fun h => ?_⟩
  have hok : ∀ k ∈ [0, 1], ((run (step next) (inFlight waiting "approval" acceptAndDecline) [0, 1, 0, 1, 0, 1]).call k).any
      DecideCall.returnedOk = true := by decide
  obtain ⟨c, hc, hret⟩ := (Option.any_eq_true ..).1 (hok 0 (by simp))
  obtain ⟨c', hc', hret'⟩ := (Option.any_eq_true ..).1 (hok 1 (by simp))
  exact absurd (h.atMostOne 0 1 c c' hc hc' hret hret') (by decide)

end Approval
end Bildr
