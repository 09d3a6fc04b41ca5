import Bildr.Approval
/-!
# ApprovalLifecycle — an approval and its request move together

The approval is open while its request is pending, resolved or expired when the request is.  Creation, decision and
expiry keep the two in step; `markApprovalDelivered` updates the approval whatever its state, so a delivery result that
arrives late reopens or resolves a closed approval.  Runs without such a call are exactly those along which the two
rows correspond and closed approvals stay as they are (`approval_lifecycle`).
-/
namespace Bildr
namespace Approval

open Trace

inductive Op
  | create (input : NewApproval) (rpcId : Json.Value) (now : Int)
  | decide (id : String) (d : Decision)
  | markDelivered (id : String) (deliveryError : Option String) (now : Int)
  | expire (run reason : String) (now : Int)
  /-- Other calls rewrite the tables the approvals refer to. -/
  | world (referenced : Referenced)

def apply (t : Tables) : Op → Tables
  | .create input rpcId now => (createApproval input rpcId now t).2
  | .decide id d => (decideApproval id d t).2
  | .markDelivered id err now => (markApprovalDelivered id err now t).2
  | .expire run reason now => (expirePendingApprovals run reason now t).2
  | .world referenced => { t with referenced := referenced }

def noApprovals (referenced : Referenced) : Tables := ⟨referenced, Table.empty, Table.empty⟩

/-! ## The lifecycle -/

def ApprovalState.closed (s : ApprovalState) : Prop := s = .resolved ∨ s = .expired

def inStep (s : ApprovalState) (r : RpcState) : Prop :=
  ((s = .pending ∨ s = .delivering) ↔ r = .pending) ∧ (s = .resolved ↔ r = .resolved) ∧ (s = .expired ↔ r = .expired)

def Lifecycle (t : Tables) : Prop :=
  ∀ id a, t.approvals.get id = some a → ∃ r, t.rpcs.get id = some r ∧ inStep a.state r.state

def Frozen (t t' : Tables) : Prop :=
  ∀ id a, t.approvals.get id = some a → a.state.closed →
    ∃ a', t'.approvals.get id = some a' ∧ a'.state = a.state ∧ a'.decision = a.decision

/-- A delivery result is for an approval that is not expired, and an error not for a resolved one. -/
def OnTime (t : Tables) : Op → Prop
  | .markDelivered id err _ => ∀ a ∈ t.approvals.get id, a.state ≠ .expired ∧ (a.state = .resolved → err = none)
  | _ => True

instance (t : Tables) (op : Op) : Decidable (OnTime t op) := by
  cases op <;> unfold OnTime <;> infer_instance

def Linked (t : Tables) : Prop :=
  ∀ id a, t.approvals.get id = some a → ∃ r, t.rpcs.get id = some r ∧ inStep a.state r.state ∧ r.runId = a.runId

theorem frozen_refl (t : Tables) : Frozen t t := fun _ a ha _ => ⟨a, ha, rfl, rfl⟩

theorem frozen_trans {t u v : Tables} (h : Frozen t u) (h' : Frozen u v) : Frozen t v := by
  intro id a ha hc
  obtain ⟨b, hb, hs, hd⟩ := h id a ha hc
  obtain ⟨c, hcb, hs', hd'⟩ := h' id b hb (by rw [hs]; exact hc)
  exact ⟨c, hcb, by rw [hs', hs], by rw [hd', hd]⟩

/-! ## What each call does to the two rows -/

theorem linked_create {t : Tables} {input : NewApproval} {rpcId : Json.Value} {now : Int} (hi : Linked t) :
    Linked (createApproval input rpcId now t).2 ∧ Frozen t (createApproval input rpcId now t).2 := by
  unfold createApproval
  rcases transaction_cases _ t with ⟨e, -, ht⟩ | ⟨u, t', hb, ht⟩
  · rw [ht]; exact ⟨hi, frozen_refl t⟩
  · rw [ht]
    obtain ⟨_, -, hb⟩ := bind_ok hb
    obtain ⟨approvals, ha, hb⟩ := bind_ok hb
    obtain ⟨rpcs, hr, hb⟩ := bind_ok hb
    cases hb
    have ha := insertRow_ok ha
    have hr := insertRow_ok hr
    have hkey : (input.row now).id = input.id := rfl
    have hkey' : (input.rpc rpcId now).requestKey = input.id := rfl
    refine ⟨fun id a hid => ?_, fun id a hid _ => ⟨a, ?_, rfl, rfl⟩⟩
    · rw [Table.get_insert ha, hkey] at hid
      rw [Table.get_insert hr, hkey']
      by_cases h : id = input.id
      · rw [if_pos h] at hid ⊢
        cases hid
        refine ⟨_, rfl, ?_, rfl⟩
        simp [inStep, NewApproval.row, NewApproval.rpc]
      · rw [if_neg h] at hid ⊢
        exact hi id a hid
    · have hne : id ≠ input.id := by
        rintro rfl
        rw [← hkey, (Table.insert_some ha).1] at hid
        cases hid
      rw [Table.get_insert ha, hkey, if_neg hne]
      exact hid

theorem decideApproval_effect (id : String) (d : Decision) (t : Tables) :
    (decideApproval id d t).2 = t ∨ ∃ a, t.approvals.get id = some a ∧ a.state = .pending ∧
      (decideApproval id d t).2 = recordDecision id d a.version t := by
  unfold decideApproval
  cases hr : readPending t id d with
  | error e => exact Or.inl rfl
  | ok seen =>
    obtain ⟨a, ha, hp, rfl⟩ := readPending_ok hr
    rcases writeDecision_cases id d (mapApproval t.referenced a) t with ⟨e, hw, -⟩ | ⟨rpc, -, -, hw⟩
    · exact Or.inl (by simp only [hw])
    · exact Or.inr ⟨a, ha, hp, by simp only [hw]; rfl⟩

theorem linked_decide {t : Tables} {id : String} {d : Decision} (hi : Linked t) :
    Linked (decideApproval id d t).2 ∧ Frozen t (decideApproval id d t).2 := by
  rcases decideApproval_effect id d t with h | ⟨a, ha, hp, h⟩
  · rw [h]; exact ⟨hi, frozen_refl t⟩
  · rw [h]
    -- the update touches the pending row only
    have hget : ∀ k b, (recordDecision id d a.version t).approvals.get k = some b →
        t.approvals.get k = some b ∨ (k = id ∧ b = decided d a) := by
      intro k b hb
      rw [recordDecision, Table.get_update] at hb
      obtain ⟨c, hc, hb⟩ := Option.map_eq_some_iff.1 hb
      by_cases hk : k = id
      · subst hk
        rw [ha] at hc
        cases hc
        refine Or.inr ⟨rfl, ?_⟩
        rw [← hb, if_pos (by simp [Table.key_of_get ha])]
      · have : c.id ≠ id := by rw [Table.key_of_get hc]; exact hk
        rw [if_neg (by simp [this])] at hb
        exact Or.inl (hb ▸ hc)
    refine ⟨fun k b hb => ?_, fun k b hb hc => ?_⟩
    · rcases hget k b hb with hb | ⟨rfl, rfl⟩
      · exact hi k b hb
      · obtain ⟨r, hr, hs, hrun⟩ := hi k a ha
        refine ⟨r, hr, ?_, hrun⟩
        have : r.state = .pending := hs.1.1 (Or.inl hp)
        simp [inStep, decided, this]
    · refine ⟨b, ?_, rfl, rfl⟩
      rw [recordDecision, Table.get_update, hb, Option.map_some, if_neg]
      intro h
      have hk : b.id = id := by simp at h; exact h.1
      rw [← Table.key_of_get hb] at hb
      rw [hk, ha] at hb
      cases hb
      rw [hp] at hc
      rcases hc with hc | hc <;> cases hc

theorem get_markDelivered (t : Tables) (id : String) (err : Option String) (now : Int) (k : String) :
    (markApprovalDelivered id err now t).2.approvals.get k =
      (t.approvals.get k).map (fun a => if a.id == id then delivered err now a else a) :=
  Table.get_update t.approvals _ (delivered err now) (delivered_id err now) k

theorem linked_markDelivered {t : Tables} {id : String} {err : Option String} {now : Int} (hi : Linked t)
    (hot : OnTime t (.markDelivered id err now)) : Linked (markApprovalDelivered id err now t).2 := by
  intro k b hb
  rw [get_markDelivered] at hb
  obtain ⟨a, ha, hb⟩ := Option.map_eq_some_iff.1 hb
  obtain ⟨r, hr, hs, hrun⟩ := hi k a ha
  have hkr : r.requestKey = k := Table.key_of_get hr
  have hka : a.id = k := Table.key_of_get ha
  by_cases hk : k = id
  · subst hk
    rw [if_pos (by simp [hka])] at hb
    obtain ⟨hne, hres⟩ := hot a ha
    cases err with
    | none =>
      refine ⟨{ r with state := .resolved, resolvedAt := some now }, ?_, ?_, ?_⟩
      · simp [markApprovalDelivered, hr, hkr]
      · rw [← hb]; simp [inStep, delivered]
      · rw [← hb]; exact hrun
    | some e =>
      -- the approval was open, so its request still waits
      have hopen : a.state = .pending ∨ a.state = .delivering := by
        cases hst : a.state with
        | pending => exact Or.inl rfl
        | delivering => exact Or.inr rfl
        | resolved => exact absurd (hres hst) (by simp)
        | expired => exact absurd hst hne
      refine ⟨r, by simp [markApprovalDelivered, hr], ?_, ?_⟩
      · rw [← hb, hs.1.1 hopen]; simp [inStep, delivered]
      · rw [← hb]; exact hrun
  · rw [if_neg (by simp [hka, hk])] at hb
    subst hb
    refine ⟨r, ?_, hs, hrun⟩
    cases err <;> simp [markApprovalDelivered, hr, hkr, hk]

/-- **A delivery result leaves closed approvals alone exactly when it is on time.** -/
theorem frozen_markDelivered (t : Tables) (id : String) (err : Option String) (now : Int) :
    Frozen t (markApprovalDelivered id err now t).2 ↔ OnTime t (.markDelivered id err now) := by
  refine ⟨fun h a ha => ?_, fun h k a ha hc => ?_⟩
  · have hka : a.id = id := Table.key_of_get ha
    refine ⟨fun hex => ?_, fun hres => ?_⟩
    · obtain ⟨b, hb, hs, -⟩ := h id a ha (Or.inr hex)
      rw [get_markDelivered, ha, Option.map_some, if_pos (by simp [hka])] at hb
      cases hb
      rw [hex] at hs
      cases err <;> cases hs
    · obtain ⟨b, hb, hs, -⟩ := h id a ha (Or.inl hres)
      rw [get_markDelivered, ha, Option.map_some, if_pos (by simp [hka])] at hb
      cases hb
      rw [hres] at hs
      cases err with
      | none => rfl
      | some e => cases hs
  · rw [get_markDelivered, ha, Option.map_some]
    refine ⟨_, rfl, ?_, ?_⟩
    · by_cases hk : a.id = id
      · rw [if_pos (by simp [hk])]
        obtain ⟨hne, hres⟩ := h a (by rw [← hk, Table.key_of_get ha]; exact ha)
        rcases hc with hc | hc
        · simp [delivered, hres hc, hc]
        · exact absurd hc hne
      · rw [if_neg (by simp [hk])]
    · split <;> rfl

theorem linked_expire {t : Tables} {run reason : String} {now : Int} (hi : Linked t) :
    Linked (expirePendingApprovals run reason now t).2 ∧ Frozen t (expirePendingApprovals run reason now t).2 := by
  refine ⟨fun k b hb => ?_, fun k a ha hc => ⟨a, ?_, rfl, rfl⟩⟩
  · rw [expirePendingApprovals, Table.get_update] at hb
    obtain ⟨a, ha, hb⟩ := Option.map_eq_some_iff.1 hb
    obtain ⟨r, hr, hs, hrun⟩ := hi k a ha
    rw [expirePendingApprovals, Table.get_update, hr, Option.map_some]
    refine ⟨_, rfl, ?_⟩
    -- both updates select the row, or neither does
    have hsel : (r.runId == run && decide (r.state = .pending)) =
        (a.runId == run && (decide (a.state = .pending) || decide (a.state = .delivering))) := by
      rw [hrun, ← decide_eq_decide.2 hs.1, Bool.decide_or]
    rw [hsel]
    split at hb
    · rename_i h
      rw [if_pos h, ← hb]
      exact ⟨by simp [inStep, expired], hrun⟩
    · rename_i h
      rw [if_neg h, ← hb]
      exact ⟨hs, hrun⟩
  · rw [expirePendingApprovals, Table.get_update, ha, Option.map_some, if_neg]
    rcases hc with hc | hc <;> simp [hc]

/-- **A call on time keeps the rows linked and the closed approvals as they are.** -/
theorem linked_apply (t : Tables) (op : Op) (hi : Linked t) (hot : OnTime t op) :
    Linked (apply t op) ∧ Frozen t (apply t op) := by
  cases op with
  | create input rpcId now => exact linked_create hi
  | decide id d => exact linked_decide hi
  | markDelivered id err now => exact ⟨linked_markDelivered hi hot, (frozen_markDelivered t id err now).2 hot⟩
  | expire run reason now => exact linked_expire hi
  | world referenced => exact ⟨hi, frozen_refl t⟩

theorem frozen_run : ∀ (ops : List Op) {t : Tables}, Linked t → Along apply OnTime t ops → Frozen t (run apply t ops)
  | [], t, _, _ => frozen_refl t
  | op :: ops, t, hi, h => by
    obtain ⟨hi', hf⟩ := linked_apply t op hi h.1
    exact frozen_trans hf (frozen_run ops hi' h.2)

/-- **The lifecycle of approvals holds along a run exactly when every delivery result is on time.** -/
theorem approval_lifecycle (referenced : Referenced) (ops : List Op) :
    Along apply OnTime (noApprovals referenced) ops ↔
      (∀ js, js <+: ops → Lifecycle (run apply (noApprovals referenced) js)) ∧
      ∀ js ks, js ++ ks <+: ops →
        Frozen (run apply (noApprovals referenced) js) (run apply (noApprovals referenced) (js ++ ks)) := by
  have h0 : Linked (noApprovals referenced) := fun id a h => by cases h
  refine ⟨fun h => ⟨fun js hjs => ?_, fun js ks hjk => ?_⟩, fun ⟨_, hf⟩ => ?_⟩
  · obtain ⟨rest, rfl⟩ := hjs
    have hl := invariant_of_step Linked (fun t op hi hot => (linked_apply t op hi hot).1) h0
      ((along_append apply OnTime _ js rest).1 h).1
    intro id a ha
    obtain ⟨r, hr, hs, -⟩ := hl id a ha
    exact ⟨r, hr, hs⟩
  · obtain ⟨rest, rfl⟩ := hjk
    obtain ⟨h1, h2⟩ := (along_append apply OnTime _ js ks).1 ((along_append apply OnTime _ (js ++ ks) rest).1 h).1
    have hl := invariant_of_step Linked (fun t op hi hot => (linked_apply t op hi hot).1) h0 h1
    rw [run_append]
    exact frozen_run ks hl h2
  · rw [along_iff]
    rintro js op ks rfl
    have := hf js [op] ⟨ks, by simp⟩
    rw [run_append] at this
    cases op with
    | markDelivered id err now => exact (frozen_markDelivered _ id err now).1 this
    | _ => trivial

/-- Recovery expires an approval while its answer is on the way; the delivery then fails. -/
def lateDelivery : List Op :=
  [.create commandApproval (.num (.pos 42)) 7, .decide "approval" ⟨"accept", none, "operator", none, 8⟩,
    .expire "run" "restart" 9, .markDelivered "approval" (some "closed pipe") 10]

/-- **A late delivery result reopens an expired approval**, whose request stays expired. -/
theorem late_delivery_reopens_approval :
    let world := noApprovals ⟨["run"], [], [], []⟩
    ¬ Lifecycle (run apply world lateDelivery) ∧
      ¬ Frozen (run apply world (lateDelivery.take 3)) (run apply world lateDelivery) := by
  intro world
  have hrow : ((run apply world lateDelivery).approvals.get "approval").map ApprovalRow.state = some .pending := by
    decide
  have hrpc : ((run apply world lateDelivery).rpcs.get "approval").map RpcRequest.state = some .expired := by
    decide
  have hold : ((run apply world (lateDelivery.take 3)).approvals.get "approval").map ApprovalRow.state =
      some .expired := by decide
  obtain ⟨a, ha, hs⟩ := Option.map_eq_some_iff.1 hrow
  refine ⟨fun h => ?_, fun h => ?_⟩
  · obtain ⟨r, hr, hin⟩ := h "approval" a ha
    have hpend : r.state = .pending := hin.1.1 (Or.inl hs)
    rw [hr, Option.map_some, hpend] at hrpc
    cases hrpc
  · obtain ⟨b, hb, hbs⟩ := Option.map_eq_some_iff.1 hold
    obtain ⟨a', ha', hs', -⟩ := h "approval" b hb (Or.inr hbs)
    rw [ha] at ha'
    cases ha'
    rw [hs, hbs] at hs'
    cases hs'

end Approval
end Bildr
