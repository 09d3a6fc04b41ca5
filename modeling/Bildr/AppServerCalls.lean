import Bildr.AppServer
import Bildr.Onset
/-!
# AppServerCalls — a reply reaches the call it answers

What a step does to a call is one of few moves (`moves_step`), and every step keeps the entries of `pending` the calls that
listen (`exact_step`), so a response line answers the one call whose id it carries.
-/
namespace AppServer

open Json (Value)

variable {d : Serde} {s : Supervisor} {j k : Nat} {c c' : Call} {r : Reply}

/-- The id a call's entry in `pending` stands under. -/
def Stage.id? : Stage → Option Nat
  | .registered id => some id
  | .waiting id    => some id
  | .refused id _  => some id
  | .expired id    => some id
  | _              => none

/-- The key of a call that listens.  A refused or expired call still counts until it has taken its entry out, though the
receiver of an expired one is dropped as soon as the timeout fires. -/
def Call.key? (c : Call) : Option String := if c.channel = .opened then c.stage.id?.map toString else none

/-- **The entries of `pending` are the calls that listen.** -/
def PendingExact (s : Supervisor) : Prop :=
  ∀ key p, s.pending.lookup key = some p ↔ ∃ c, s.calls[p.response]? = some c ∧ c.key? = some key ∧ c.method = p.method

@[simp] theorem withStage_stage (stage : Stage) (c : Call) : (c.withStage stage).stage = stage := rfl

@[simp] theorem withStage_channel (stage : Stage) (c : Call) : (c.withStage stage).channel = c.channel := rfl

@[simp] theorem withStage_method (stage : Stage) (c : Call) : (c.withStage stage).method = c.method := rfl

@[simp] theorem hangUp_stage (c : Call) : c.hangUp.stage = c.stage := by
  unfold Call.hangUp
  split <;> rfl

@[simp] theorem hangUp_method (c : Call) : c.hangUp.method = c.method := by
  unfold Call.hangUp
  split <;> rfl

@[simp] theorem send_stage (r : Reply) (c : Call) : (c.send r).stage = c.stage := by
  unfold Call.send
  split <;> rfl

@[simp] theorem send_method (r : Reply) (c : Call) : (c.send r).method = c.method := by
  unfold Call.send
  split <;> rfl

theorem hangUp_channel (c : Call) : c.hangUp.channel = if c.channel = .opened then .closed else c.channel := by
  unfold Call.hangUp
  split
  · rename_i h
    rw [if_pos h]
  · rename_i h
    rw [if_neg h]

theorem send_channel (r : Reply) (c : Call) : (c.send r).channel = if c.channel = .opened then .sent r else c.channel := by
  unfold Call.send
  split
  · rename_i h
    rw [if_pos h]
  · rename_i h
    rw [if_neg h]

theorem key_of_channel {c : Call} (h : c.channel ≠ .opened) : c.key? = none := if_neg h

@[simp] theorem key_hangUp (c : Call) : c.hangUp.key? = none := by
  apply key_of_channel
  rw [hangUp_channel]
  by_cases h : c.channel = .opened
  · simp [h]
  · simp [h]

@[simp] theorem key_send (r : Reply) (c : Call) : (c.send r).key? = none := by
  apply key_of_channel
  rw [send_channel]
  by_cases h : c.channel = .opened
  · simp [h]
  · simp [h]

theorem key_withStage {stage : Stage} (h : stage.id? = c.stage.id?) : (c.withStage stage).key? = c.key? := by
  unfold Call.key?
  rw [withStage_channel, withStage_stage, h]

/-! ## Calls after a step -/

theorem call_update (s : Supervisor) (k : Nat) (f : Call → Call) (j : Nat) :
    (s.update k f).calls[j]? = if k = j then (s.calls[j]?).map f else s.calls[j]? := by
  unfold Supervisor.update
  rw [List.getElem?_modify]
  by_cases h : k = j
  · rw [if_pos h]
    simp [h]
  · rw [if_neg h]
    simp [h]

/-- The call whose sender is taken is changed, the others are not. -/
theorem call_take {key : String} {f : PendingRequest → Call → Call} (h : (s.take key f).calls[j]? = some c') :
    ∃ c, s.calls[j]? = some c ∧
      (c' = c ∨ ∃ p, s.pending.lookup key = some p ∧ p.response = j ∧ c' = f p c) := by
  unfold Supervisor.take at h
  cases hp : s.pending.lookup key with
  | none =>
    rw [hp] at h
    exact ⟨c', h, Or.inl rfl⟩
  | some p =>
    rw [hp] at h
    have hu : (s.update p.response (f p)).calls[j]? = some c' := h
    rw [call_update] at hu
    by_cases hj : p.response = j
    · rw [if_pos hj] at hu
      obtain ⟨c, hc, hf⟩ := Option.map_eq_some_iff.1 hu
      exact ⟨c, hc, Or.inr ⟨p, rfl, hj, hf.symm⟩⟩
    · rw [if_neg hj] at hu
      exact ⟨c', hu, Or.inl rfl⟩

theorem call_forget {id : Nat} (h : (s.forgetCall id).calls[j]? = some c') :
    ∃ c, s.calls[j]? = some c ∧ (c' = c ∨ c' = c.hangUp) := by
  obtain ⟨c, hc, hcase⟩ := call_take h
  exact ⟨c, hc, hcase.imp (fun h => h) (fun ⟨_, _, _, h⟩ => h)⟩

/-- A drain sends to every call an entry names. -/
theorem call_drain (entries : List (Sigma (fun _ : String => PendingRequest))) (r : Reply) :
    ∀ (calls : List Call) (j : Nat),
      (entries.foldl (fun calls e => calls.modify e.2.response (Call.send r)) calls)[j]? =
        (calls[j]?).map (fun c => if ∃ e ∈ entries, e.2.response = j then c.send r else c) := by
  induction entries with
  | nil =>
    intro calls j
    simp
  | cons e entries ih =>
    intro calls j
    rw [List.foldl_cons, ih, List.getElem?_modify]
    cases calls[j]? with
    | none => rfl
    | some c =>
      have htwice : (c.send r).send r = c.send r := by
        have hclosed : (c.send r).channel ≠ .opened := by
          rw [send_channel]
          by_cases h : c.channel = .opened
          · simp [h]
          · simp [h]
        rw [Call.send]
        split
        · rename_i h
          exact absurd h hclosed
        · rfl
      by_cases hj : e.2.response = j
      · by_cases hrest : ∃ e ∈ entries, e.2.response = j
        · simp [hj, hrest, htwice]
        · simp [hj, hrest]
      · have hhead : (∃ x ∈ e :: entries, x.2.response = j) ↔ ∃ x ∈ entries, x.2.response = j := by simp [hj]
        simp only [hj, if_false, Option.map_some, hhead]
        rfl

/-- What step `e` at `s` may make of the call `j`. -/
inductive Moves (d : Serde) (s : Supervisor) (j : Nat) (c : Call) : Event → Call → Prop
  | stays {e : Event} : Moves d s j c e c
  | hangsUp {k : Nat} : Moves d s j c (.call k) c.hangUp
  | numbers (h : c.stage = .idle) : Moves d s j c (.call j) (c.withStage (.numbered s.nextId))
  | registers {id : Nat} (h : c.stage = .numbered id) :
    Moves d s j c (.call j) { c with stage := .registered id, channel := .opened }
  | fails {id : Nat} {error : CodexError} {c₁ : Call} (h : c.stage = .refused id error) (h₁ : c₁ = c ∨ c₁ = c.hangUp) :
    Moves d s j c (.call j) (c₁.withStage (.returned (.error error)))
  | lapses {id : Nat} {c₁ : Call} (h : c.stage = .expired id) (h₁ : c₁ = c ∨ c₁ = c.hangUp) :
    Moves d s j c (.call j) (c₁.withStage (.returned (.error (.timeout c.method))))
  | admitted {id : Nat} (h : c.stage = .registered id) : Moves d s j c (.submit j) (c.withStage (.waiting id))
  | refuses {id : Nat} {error : CodexError} (h : c.stage = .registered id) (he : s.refusal c.method = some error) :
    Moves d s j c (.refuse j) (c.withStage (.refused id error))
  | receives {id : Nat} {reply : Reply} (h : c.stage = .waiting id) (hc : c.channel = .sent reply) :
    Moves d s j c (.receive j) (c.withStage (.returned reply))
  | misses {id : Nat} (h : c.stage = .waiting id) (hc : c.channel = .closed) :
    Moves d s j c (.receive j) (c.withStage (.returned (.error .disconnected)))
  | expires {id : Nat} (h : c.stage = .waiting id) : Moves d s j c (.expire j) (c.withStage (.expired id))
  | answered {event : CodexEvent} {id : Value} {p : PendingRequest} (hr : s.reader = .delivered event)
    (hk : event.kind = .response) (hid : event.requestId = some id)
    (hp : s.pending.lookup (requestKey d id) = some p) (hj : p.response = j) :
    Moves d s j c .reader (c.send (replyOf p.method event.message))
  | drained : Moves d s j c .watcher (c.send (.error .disconnected))

/-- **One call steps**: it takes the move of its stage, and another call may lose its sender. -/
theorem moves_call (hk : s.calls[k]? = some c) {a : Call} (ha : (callStep s k c).calls[j]? = some a) :
    ∃ b, s.calls[j]? = some b ∧ Moves d s j b (.call k) a := by
  unfold callStep at ha
  split at ha
  · rename_i h
    have hu : (s.update k (Call.withStage (.numbered s.nextId))).calls[j]? = some a := ha
    rw [call_update] at hu
    by_cases hj : k = j
    · subst hj
      rw [if_pos rfl, hk] at hu
      cases hu
      exact ⟨c, hk, .numbers h⟩
    · rw [if_neg hj] at hu
      exact ⟨a, hu, .stays⟩
  · rename_i id h
    have hu : ((s.forgetCall id).update k (fun c => { c with stage := .registered id, channel := .opened })).calls[j]? =
        some a := ha
    rw [call_update] at hu
    by_cases hj : k = j
    · subst hj
      rw [if_pos rfl] at hu
      obtain ⟨c₁, hc₁, rfl⟩ := Option.map_eq_some_iff.1 hu
      obtain ⟨b, hb, hcase⟩ := call_forget hc₁
      rw [hk] at hb
      cases hb
      refine ⟨c, hk, ?_⟩
      have hsame : ({ c₁ with stage := .registered id, channel := .opened } : Call) =
          { c with stage := .registered id, channel := .opened } := by
        rcases hcase with rfl | rfl
        · rfl
        · unfold Call.hangUp
          split <;> rfl
      rw [hsame]
      exact .registers h
    · rw [if_neg hj] at hu
      obtain ⟨b, hb, rfl | rfl⟩ := call_forget hu
      · exact ⟨a, hb, .stays⟩
      · exact ⟨b, hb, .hangsUp⟩
  · rename_i id error h
    rw [call_update] at ha
    by_cases hj : k = j
    · subst hj
      rw [if_pos rfl] at ha
      obtain ⟨c₁, hc₁, rfl⟩ := Option.map_eq_some_iff.1 ha
      obtain ⟨b, hb, hcase⟩ := call_forget hc₁
      rw [hk] at hb
      cases hb
      exact ⟨c, hk, .fails h hcase⟩
    · rw [if_neg hj] at ha
      obtain ⟨b, hb, rfl | rfl⟩ := call_forget ha
      · exact ⟨a, hb, .stays⟩
      · exact ⟨b, hb, .hangsUp⟩
  · rename_i id h
    rw [call_update] at ha
    by_cases hj : k = j
    · subst hj
      rw [if_pos rfl] at ha
      obtain ⟨c₁, hc₁, rfl⟩ := Option.map_eq_some_iff.1 ha
      obtain ⟨b, hb, hcase⟩ := call_forget hc₁
      rw [hk] at hb
      cases hb
      exact ⟨c, hk, .lapses h hcase⟩
    · rw [if_neg hj] at ha
      obtain ⟨b, hb, rfl | rfl⟩ := call_forget ha
      · exact ⟨a, hb, .stays⟩
      · exact ⟨b, hb, .hangsUp⟩
  · exact ⟨a, ha, .stays⟩

/-- The stage of one call is changed, the others stay. -/
theorem moves_update {e : Event} {stage : Stage} (hk : s.calls[k]? = some c)
    (hm : k = j → Moves d s j c e (c.withStage stage)) {a : Call}
    (ha : (s.update k (Call.withStage stage)).calls[j]? = some a) : ∃ b, s.calls[j]? = some b ∧ Moves d s j b e a := by
  rw [call_update] at ha
  by_cases hj : k = j
  · subst hj
    rw [if_pos rfl, hk] at ha
    cases ha
    exact ⟨c, hk, hm rfl⟩
  · rw [if_neg hj] at ha
    exact ⟨a, ha, .stays⟩

theorem moves_admit (hk : s.calls[k]? = some c) {a : Call} (ha : (admitCall s k c).calls[j]? = some a) :
    ∃ b, s.calls[j]? = some b ∧ Moves d s j b (.submit k) a := by
  unfold admitCall at ha
  split at ha
  · rename_i id h
    split at ha
    · refine moves_update hk (fun hj => ?_) ha
      subst hj
      exact .admitted h
    · exact ⟨a, ha, .stays⟩
  · exact ⟨a, ha, .stays⟩

theorem moves_refuse (hk : s.calls[k]? = some c) {a : Call} (ha : (refuseCall s k c).calls[j]? = some a) :
    ∃ b, s.calls[j]? = some b ∧ Moves d s j b (.refuse k) a := by
  unfold refuseCall at ha
  split at ha
  · rename_i id h
    split at ha
    · rename_i error he
      refine moves_update hk (fun hj => ?_) ha
      subst hj
      exact .refuses h he
    · exact ⟨a, ha, .stays⟩
  · exact ⟨a, ha, .stays⟩

theorem moves_receive (hk : s.calls[k]? = some c) {a : Call} (ha : (receiveReply s k c).calls[j]? = some a) :
    ∃ b, s.calls[j]? = some b ∧ Moves d s j b (.receive k) a := by
  unfold receiveReply at ha
  split at ha
  · rename_i id h
    split at ha
    · rename_i reply hc
      refine moves_update hk (fun hj => ?_) ha
      subst hj
      exact .receives h hc
    · rename_i hc
      refine moves_update hk (fun hj => ?_) ha
      subst hj
      exact .misses h hc
    · exact ⟨a, ha, .stays⟩
  · exact ⟨a, ha, .stays⟩

theorem moves_expire (hk : s.calls[k]? = some c) {a : Call} (ha : (expireCall s k c).calls[j]? = some a) :
    ∃ b, s.calls[j]? = some b ∧ Moves d s j b (.expire k) a := by
  unfold expireCall at ha
  split at ha
  · rename_i id h
    refine moves_update hk (fun hj => ?_) ha
    subst hj
    exact .expires h
  · exact ⟨a, ha, .stays⟩

theorem moves_answer {event : CodexEvent} (hr : s.reader = .delivered event) {a : Call}
    (ha : (answer d s event).calls[j]? = some a) : ∃ b, s.calls[j]? = some b ∧ Moves d s j b .reader a := by
  unfold answer at ha
  split at ha
  · rename_i id hk hid
    obtain ⟨b, hb, rfl | ⟨p, hp, hj, rfl⟩⟩ := call_take ha
    · exact ⟨a, hb, .stays⟩
    · exact ⟨b, hb, .answered hr hk hid hp hj⟩
  · exact ⟨a, ha, .stays⟩

theorem moves_reader {a : Call} (ha : (readerStep d s).calls[j]? = some a) :
    ∃ b, s.calls[j]? = some b ∧ Moves d s j b .reader a := by
  unfold readerStep at ha
  split at ha
  · exact ⟨a, ha, .stays⟩
  · exact ⟨a, ha, .stays⟩
  · rename_i event hr
    exact moves_answer hr ha
  · exact ⟨a, ha, .stays⟩

theorem moves_watcher {a : Call} (ha : (watcherStep s).calls[j]? = some a) :
    ∃ b, s.calls[j]? = some b ∧ Moves d s j b .watcher a := by
  unfold watcherStep at ha
  split at ha
  · have hd : (drainPending s).calls[j]? = some a := ha
    unfold drainPending at hd
    rw [call_drain] at hd
    obtain ⟨b, hb, rfl⟩ := Option.map_eq_some_iff.1 hd
    refine ⟨b, hb, ?_⟩
    split
    · exact .drained
    · exact .stays
  · exact ⟨a, ha, .stays⟩

/-- The steps that leave the calls and their entries alone. -/
def Event.apart : Event → Bool
  | .call _ | .submit _ | .refuse _ | .receive _ | .expire _ | .reader | .watcher => false
  | _                                                                         => true

theorem apart_step {e : Event} (h : e.apart = true) :
    (step d s e).calls = s.calls ∧ (step d s e).pending = s.pending := by
  cases e with
  | call _ | submit _ | refuse _ | receive _ | expire _ | reader | watcher => cases h
  | enqueue m =>
    simp only [step, enqueue]
    split <;> exact ⟨rfl, rfl⟩
  | write =>
    simp only [step, writerStep]
    split <;> exact ⟨rfl, rfl⟩
  | writeFails =>
    simp only [step, writerFails]
    split <;> exact ⟨rfl, rfl⟩
  | line l =>
    simp only [step, takeLine]
    (repeat' split) <;> exact ⟨rfl, rfl⟩
  | streamEnds =>
    simp only [step, streamEnds]
    split <;> exact ⟨rfl, rfl⟩
  | exit =>
    simp only [step, childExits]
    split <;> exact ⟨rfl, rfl⟩
  | abort => exact ⟨rfl, rfl⟩

/-- **What a step does to a call.** -/
theorem moves_step {e : Event} {a : Call} (ha : (step d s e).calls[j]? = some a) :
    ∃ b, s.calls[j]? = some b ∧ Moves d s j b e a := by
  have hcall : ∀ {k : Nat} {f : Supervisor → Nat → Call → Supervisor} {e : Event},
      (∀ c, s.calls[k]? = some c → (f s k c).calls[j]? = some a → ∃ b, s.calls[j]? = some b ∧ Moves d s j b e a) →
      (onCall s k f).calls[j]? = some a → ∃ b, s.calls[j]? = some b ∧ Moves d s j b e a := by
    intro k f e hf h
    unfold onCall at h
    split at h
    · rename_i c hc
      exact hf c hc h
    · exact ⟨a, h, .stays⟩
  by_cases h : e.apart = true
  · rw [(apart_step h).1] at ha
    exact ⟨a, ha, .stays⟩
  · cases e with
    | call k => exact hcall (fun c hc h => moves_call hc h) ha
    | submit k => exact hcall (fun c hc h => moves_admit hc h) ha
    | refuse k => exact hcall (fun c hc h => moves_refuse hc h) ha
    | receive k => exact hcall (fun c hc h => moves_receive hc h) ha
    | expire k => exact hcall (fun c hc h => moves_expire hc h) ha
    | reader => exact moves_reader ha
    | watcher => exact moves_watcher ha
    | _ => exact absurd rfl h

/-! ## The entries of `pending` -/

theorem exact_update {f : Call → Call} (h : PendingExact s)
    (hf : ∀ c, s.calls[k]? = some c → (f c).key? = c.key? ∧ (f c).method = c.method) : PendingExact (s.update k f) := by
  intro key p
  refine (h key p).trans ?_
  rw [call_update]
  by_cases hk : k = p.response
  · rw [if_pos hk]
    constructor
    · rintro ⟨c, hc, hkey, hm⟩
      obtain ⟨hfk, hfm⟩ := hf c (hk ▸ hc)
      exact ⟨f c, by rw [hc]; rfl, hfk.trans hkey, hfm.trans hm⟩
    · rintro ⟨c', hc', hkey, hm⟩
      obtain ⟨c, hc, rfl⟩ := Option.map_eq_some_iff.1 hc'
      obtain ⟨hfk, hfm⟩ := hf c (hk ▸ hc)
      exact ⟨c, hc, hfk.symm.trans hkey, hfm.symm.trans hm⟩
  · rw [if_neg hk]

theorem lookup_take (s : Supervisor) (key : String) (f : PendingRequest → Call → Call) (key' : String) :
    (s.take key f).pending.lookup key' = if key' = key then none else s.pending.lookup key' := by
  unfold Supervisor.take
  cases hp : s.pending.lookup key with
  | none =>
    by_cases hk : key' = key
    · rw [if_pos hk, hk]
      exact hp
    · rw [if_neg hk]
  | some p =>
    by_cases hk : key' = key
    · rw [if_pos hk, hk]
      exact AList.lookup_erase key s.pending
    · rw [if_neg hk]
      exact AList.lookup_erase_ne hk

/-- A call that the taken sender was not for is as before. -/
theorem call_take_of_ne {key : String} {f : PendingRequest → Call → Call}
    (h : ∀ p, s.pending.lookup key = some p → p.response ≠ j) : (s.take key f).calls[j]? = s.calls[j]? := by
  unfold Supervisor.take
  cases hp : s.pending.lookup key with
  | none => rfl
  | some p => exact (call_update s p.response (f p) j).trans (if_neg (h p hp))

/-- **An entry is taken together with its call.** -/
theorem exact_take {key : String} {f : PendingRequest → Call → Call} (h : PendingExact s)
    (hf : ∀ p c, (f p c).key? = none) : PendingExact (s.take key f) := by
  intro key' p
  rw [lookup_take]
  by_cases hk : key' = key
  · rw [if_pos hk]
    refine ⟨fun h' => (by cases h'), fun h' => ?_⟩
    obtain ⟨c', hc', hkey, hm⟩ := h'
    obtain ⟨c, hc, rfl | ⟨q, hq, hj, rfl⟩⟩ := call_take hc'
    · -- a call that still listens under the key would be the one whose sender was taken
      have hp := (h key' p).2 ⟨c', hc, hkey, hm⟩
      rw [hk] at hp
      unfold Supervisor.take at hc'
      rw [hp] at hc'
      have hu : (s.update p.response (f p)).calls[p.response]? = some c' := hc'
      rw [call_update, if_pos rfl, hc] at hu
      have hcc : f p c' = c' := Option.some.inj hu
      rw [← hcc, hf] at hkey
      cases hkey
    · rw [hf] at hkey
      cases hkey
  · rw [if_neg hk, h key' p]
    constructor
    · rintro ⟨c, hc, hkey, hm⟩
      refine ⟨c, ?_, hkey, hm⟩
      rw [call_take_of_ne, hc]
      intro q hq hj
      obtain ⟨c₁, hc₁, hkey₁, -⟩ := (h key q).1 hq
      rw [hj, hc] at hc₁
      cases hc₁
      rw [hkey] at hkey₁
      exact hk (Option.some.inj hkey₁)
    · rintro ⟨c', hc', hkey, hm⟩
      obtain ⟨c, hc, rfl | ⟨q, -, -, rfl⟩⟩ := call_take hc'
      · exact ⟨c', hc, hkey, hm⟩
      · rw [hf] at hkey
        cases hkey

/-- Nobody listens under a key whose entry was taken. -/
theorem key_of_take {key : String} {f : PendingRequest → Call → Call} (h : PendingExact s)
    (hf : ∀ p c, (f p c).key? = none) (hc : (s.take key f).calls[k]? = some c) : c.key? ≠ some key := by
  intro hkey
  have hp := (exact_take h hf key ⟨c.method, k⟩).2 ⟨c, hc, hkey, rfl⟩
  rw [lookup_take, if_pos rfl] at hp
  cases hp

/-- **A call that begins to listen gets the entry of its key.** -/
theorem exact_insert {key : String} (h : PendingExact s) (hnone : s.pending.lookup key = none) {c : Call}
    (hc : s.calls[k]? = some c) (hkey : c.key? = none) {f : Call → Call} (hfk : (f c).key? = some key)
    (hfm : (f c).method = c.method) :
    PendingExact { s.update k f with pending := s.pending.insert key ⟨c.method, k⟩ } := by
  have hcalls : ∀ j, (s.update k f).calls[j]? = if k = j then some (f c) else s.calls[j]? := by
    intro j
    rw [call_update]
    by_cases hj : k = j
    · rw [if_pos hj, if_pos hj, ← hj, hc]
      rfl
    · rw [if_neg hj, if_neg hj]
  intro key' p
  show (s.pending.insert key ⟨c.method, k⟩).lookup key' = some p ↔
    ∃ a, (s.update k f).calls[p.response]? = some a ∧ a.key? = some key' ∧ a.method = p.method
  rw [hcalls]
  by_cases hk : key' = key
  · subst hk
    rw [AList.lookup_insert]
    constructor
    · intro hp
      cases hp
      exact ⟨f c, if_pos rfl, hfk, hfm⟩
    · rintro ⟨a, ha, hak, ham⟩
      by_cases hj : k = p.response
      · rw [if_pos hj] at ha
        cases ha
        rw [← hfm, ham, hj]
      · rw [if_neg hj] at ha
        have hp := (h key' p).2 ⟨a, ha, hak, ham⟩
        rw [hnone] at hp
        cases hp
  · rw [AList.lookup_insert_ne hk, h key' p]
    by_cases hj : k = p.response
    · rw [if_pos hj]
      constructor
      · rintro ⟨a, ha, hak, -⟩
        rw [← hj, hc] at ha
        cases ha
        rw [hkey] at hak
        cases hak
      · rintro ⟨a, ha, hak, -⟩
        cases ha
        rw [hfk] at hak
        exact absurd (Option.some.inj hak).symm hk
    · rw [if_neg hj]

theorem key_of_stage {c : Call} (h : c.stage.id? = none) : c.key? = none := by
  unfold Call.key?
  rw [h]
  exact ite_self _

/-- A call that leaves under the key it forgets. -/
theorem exact_leave {id : Nat} {stage : Stage} (h : PendingExact s) (hc : s.calls[k]? = some c)
    (hid : c.stage.id? = some id) (hstage : stage.id? = none) :
    PendingExact ((s.forgetCall id).update k (Call.withStage stage)) := by
  have hf : ∀ (p : PendingRequest) (c : Call), c.hangUp.key? = none := fun _ c => key_hangUp c
  refine exact_update (exact_take h hf) (fun a ha => ⟨?_, rfl⟩)
  rw [key_of_stage (by rw [withStage_stage, hstage])]
  -- it does not listen any more: its own key is the one that was forgotten
  by_cases hopen : a.channel = .opened
  · have hkey := key_of_take h hf ha
    obtain ⟨b, hb, hcase⟩ := call_forget ha
    rw [hc] at hb
    cases hb
    have hstage' : a.stage = c.stage := by
      rcases hcase with rfl | rfl
      · rfl
      · exact hangUp_stage c
    have ha' : a.key? = some (toString id) := by
      unfold Call.key?
      rw [if_pos hopen, hstage', hid]
      rfl
    exact absurd ha' hkey
  · exact (key_of_channel hopen).symm

theorem exact_call (h : PendingExact s) (hc : s.calls[k]? = some c) : PendingExact (callStep s k c) := by
  unfold callStep
  split
  · rename_i hidle
    refine @exact_update s k (Call.withStage (.numbered s.nextId)) h (fun a ha => ⟨key_withStage ?_, rfl⟩)
    rw [hc] at ha
    cases ha
    rw [hidle]
    rfl
  · rename_i id hnumbered
    have hf : ∀ (p : PendingRequest) (c : Call), c.hangUp.key? = none := fun _ c => key_hangUp c
    have htake : PendingExact (s.forgetCall id) := exact_take h hf
    have hnone : (s.forgetCall id).pending.lookup (toString id) = none := by
      unfold Supervisor.forgetCall
      rw [lookup_take, if_pos rfl]
    obtain ⟨a, ha, hmethod, hstage⟩ : ∃ a, (s.forgetCall id).calls[k]? = some a ∧ a.method = c.method ∧
        a.stage = c.stage := by
      have hlength : k < (s.forgetCall id).calls.length := by
        have hk := (List.getElem?_eq_some_iff.1 hc).1
        unfold Supervisor.forgetCall Supervisor.take
        split
        · exact hk
        · simpa [Supervisor.update] using hk
      have ha := List.getElem?_eq_getElem hlength
      obtain ⟨b, hb, hcase⟩ := call_forget ha
      rw [hc] at hb
      cases hb
      refine ⟨_, ha, ?_⟩
      rcases hcase with hcase | hcase
      · rw [hcase]
        exact ⟨rfl, rfl⟩
      · rw [hcase]
        exact ⟨hangUp_method c, hangUp_stage c⟩
    have hkey : a.key? = none := key_of_stage (by rw [hstage, hnumbered]; rfl)
    have hins := @exact_insert (s.forgetCall id) k (toString id) htake hnone a ha hkey
      (fun c => { c with stage := .registered id, channel := .opened }) rfl rfl
    rw [hmethod] at hins
    exact hins
  · rename_i id error hrefused
    exact exact_leave h hc (by rw [hrefused]; rfl) rfl
  · rename_i id hexpired
    exact exact_leave h hc (by rw [hexpired]; rfl) rfl
  · exact h

/-- A step of a call that keeps the id it listens under, or does not listen. -/
theorem exact_stage {stage : Stage} (h : PendingExact s) (hc : s.calls[k]? = some c)
    (hs : stage.id? = c.stage.id? ∨ (stage.id? = none ∧ c.channel ≠ .opened)) :
    PendingExact (s.update k (Call.withStage stage)) := by
  refine exact_update h (fun a ha => ⟨?_, rfl⟩)
  rw [hc] at ha
  cases ha
  rcases hs with hs | ⟨hs, hclosed⟩
  · exact key_withStage hs
  · rw [key_of_channel hclosed]
    exact key_of_stage hs

theorem exact_drain (h : PendingExact s) : PendingExact (drainPending s) := by
  intro key p
  constructor
  · intro hp
    cases hp
  · rintro ⟨c', hc', hkey, -⟩
    unfold drainPending at hc'
    rw [call_drain] at hc'
    obtain ⟨c, hc, rfl⟩ := Option.map_eq_some_iff.1 hc'
    by_cases hentry : ∃ e ∈ s.pending.entries, e.2.response = p.response
    · rw [if_pos hentry, key_send] at hkey
      cases hkey
    · rw [if_neg hentry] at hkey
      have hp := (h key ⟨c.method, p.response⟩).2 ⟨c, hc, hkey, rfl⟩
      exact absurd ⟨_, AList.mem_lookup_iff.1 hp, rfl⟩ hentry

theorem exact_reader (h : PendingExact s) : PendingExact (readerStep d s) := by
  unfold readerStep
  split
  · exact h
  · exact h
  · rename_i event _
    have hanswer : PendingExact (answer d s event) := by
      unfold answer
      split
      · exact exact_take h (fun p c => key_send _ c)
      · exact h
    exact hanswer
  · exact h

/-- **Every step keeps the entries exact.** -/
theorem exact_step {e : Event} (h : PendingExact s) : PendingExact (step d s e) := by
  have hcall : ∀ {k : Nat} {f : Supervisor → Nat → Call → Supervisor},
      (∀ c, s.calls[k]? = some c → PendingExact (f s k c)) → PendingExact (onCall s k f) := by
    intro k f hf
    unfold onCall
    split
    · rename_i c hc
      exact hf c hc
    · exact h
  by_cases hapart : e.apart = true
  · obtain ⟨hcalls, hpending⟩ := @apart_step d s e hapart
    unfold PendingExact
    rw [hcalls, hpending]
    exact h
  · cases e with
    | call k => exact hcall (fun c hc => exact_call h hc)
    | submit k =>
      refine hcall (fun c hc => ?_)
      unfold admitCall
      split
      · rename_i id hs
        split
        · exact @exact_stage s k c (.waiting id) h hc (Or.inl (by rw [hs]; rfl))
        · exact h
      · exact h
    | refuse k =>
      refine hcall (fun c hc => ?_)
      unfold refuseCall
      split
      · rename_i id hs
        split
        · exact exact_stage h hc (Or.inl (by rw [hs]; rfl))
        · exact h
      · exact h
    | receive k =>
      refine hcall (fun c hc => ?_)
      unfold receiveReply
      split
      · split
        · rename_i reply hch
          exact exact_stage h hc (Or.inr ⟨rfl, by rw [hch]; exact nofun⟩)
        · rename_i hch
          exact exact_stage h hc (Or.inr ⟨rfl, by rw [hch]; exact nofun⟩)
        · exact h
      · exact h
    | expire k =>
      refine hcall (fun c hc => ?_)
      unfold expireCall
      split
      · rename_i id hs
        exact exact_stage h hc (Or.inl (by rw [hs]; rfl))
      · exact h
    | reader => exact exact_reader h
    | watcher =>
      show PendingExact (watcherStep s)
      unfold watcherStep
      split
      · exact @exact_drain s h
      · exact h
    | _ => exact absurd rfl hapart

end AppServer
