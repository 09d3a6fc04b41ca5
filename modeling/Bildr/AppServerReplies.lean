import Bildr.AppServerCalls
/-!
# AppServerReplies — what a call returns is what a line said

The entries of `pending` are exact at every point of every run (`pending_exact`).  A reply that comes from the app server
was read from a line that names the call, while the call listened (`reply_of_line`), and of the lines that name it the
first one counts (`first_response`).
-/
namespace AppServer

open Json (Value)

variable {d : Serde} {s : Supervisor} {j k : Nat} {c c' : Call} {r : Reply} {calls : List (String × Value)}
  {es : List Event}

@[simp] theorem reach_snoc (es : List Event) (e : Event) :
    reach d calls (es ++ [e]) = step d (reach d calls es) e := Trace.run_snoc _ es e

theorem call_start (h : (start calls).calls[k]? = some c) : c.stage = .idle ∧ c.channel = .closed := by
  unfold start at h
  rw [List.getElem?_map] at h
  obtain ⟨a, -, rfl⟩ := Option.map_eq_some_iff.1 h
  exact ⟨rfl, rfl⟩

/-- **At every point of every run the entries of `pending` are the calls that listen.** -/
theorem exact_reach (d : Serde) (calls : List (String × Value)) (es : List Event) : PendingExact (reach d calls es) := by
  refine Trace.run_induction (P := fun _ s => PendingExact s) ?_ (fun _ _ h => exact_step h) es
  intro key p
  constructor
  · intro hp
    cases hp
  · rintro ⟨c, hc, hkey, -⟩
    rw [key_of_channel (by rw [(call_start hc).2]; exact nofun)] at hkey
    cases hkey

/-- **No entry outlives its call, and no two calls share one**: in every order of steps the entries of `pending` are the calls
that listen, two calls that listen have different ids, and when all calls have returned nothing is left. -/
theorem pending_exact (d : Serde) (calls : List (String × Value)) (es : List Event) :
    PendingExact (reach d calls es) ∧
    (∀ (j k : Nat) (a b : Call) key, (reach d calls es).calls[j]? = some a →
      (reach d calls es).calls[k]? = some b → a.key? = some key → b.key? = some key → j = k) ∧
    ((∀ c ∈ (reach d calls es).calls, ∃ r, c.stage = .returned r) →
      (reach d calls es).pending.entries = []) := by
  have h := exact_reach d calls es
  refine ⟨h, fun j k a b key ha hb hakey hbkey => ?_, fun hreturned => ?_⟩
  · have hj := (h key ⟨a.method, j⟩).2 ⟨a, ha, hakey, rfl⟩
    have hk := (h key ⟨b.method, k⟩).2 ⟨b, hb, hbkey, rfl⟩
    rw [hj] at hk
    exact congrArg PendingRequest.response (Option.some.inj hk)
  · apply List.eq_nil_iff_forall_not_mem.2
    rintro ⟨key, p⟩ hmem
    obtain ⟨c, hc, hkey, -⟩ := (h key p).1 (AList.mem_lookup_iff.2 hmem)
    obtain ⟨r, hr⟩ := hreturned c (List.mem_of_getElem? hc)
    rw [key_of_stage (by rw [hr]; rfl)] at hkey
    cases hkey

/-! ## Where a reply comes from -/

/-- The app server said it. -/
def FromServer (r : Reply) : Prop :=
  (∃ v, r = .ok v) ∨ ∃ method code message data, r = .error (.rpc method code message data)

/-- A call gives up for want of the writer, of an answer or of the app server, or it returns what it was sent. -/
def Told (c : Call) : Prop :=
  match c.stage with
  | .refused _ error => error = .disconnected ∨ error = .timeout c.method
  | .returned r      => r = .error .disconnected ∨ r = .error (.timeout c.method) ∨ c.channel = .sent r
  | _                => True

theorem refusal_cases {method : String} {error : CodexError} (h : s.refusal method = some error) :
    error = .disconnected ∨ error = .timeout method := by
  unfold Supervisor.refusal at h
  split at h
  · cases h
    exact Or.inl rfl
  · split at h
    · cases h
      exact Or.inr rfl
    · cases h

theorem told_of_channel (h : Told c) {a : Call} (hs : a.stage = c.stage) (hm : a.method = c.method)
    (hc : ∀ r, c.channel = .sent r → a.channel = .sent r) : Told a := by
  unfold Told at *
  rw [hs, hm]
  split
  · rename_i hstage
    rw [hstage] at h
    exact h
  · rename_i hstage
    rw [hstage] at h
    exact h.imp (fun h => h) (fun h => h.imp (fun h => h) (fun h => hc _ h))
  · trivial

theorem hangUp_sent (h : c.channel = .sent r) : c.hangUp.channel = .sent r := by
  rw [hangUp_channel, h]
  rfl

theorem send_sent {r' : Reply} (h : c.channel = .sent r) : (c.send r').channel = .sent r := by
  rw [send_channel, h]
  rfl

theorem told_moves {e : Event} (hm : Moves d s j c e c') (h : Told c) : Told c' := by
  cases hm with
  | stays => exact h
  | hangsUp => exact told_of_channel h (hangUp_stage c) (hangUp_method c) (fun r => hangUp_sent)
  | numbers _ => trivial
  | registers _ => trivial
  | fails hs h₁ =>
    unfold Told at h
    rw [hs] at h
    have hmethod : ∀ c₁ : Call, c₁ = c ∨ c₁ = c.hangUp → c₁.method = c.method := by
      rintro c₁ (rfl | rfl)
      · rfl
      · exact hangUp_method c
    unfold Told
    rcases h with rfl | rfl
    · exact Or.inl rfl
    · exact Or.inr (Or.inl (by rw [withStage_method, hmethod _ h₁]))
  | lapses hs h₁ =>
    unfold Told
    refine Or.inr (Or.inl ?_)
    rcases h₁ with rfl | rfl
    · rfl
    · rw [withStage_method, hangUp_method]
  | admitted _ => trivial
  | refuses _ he => exact refusal_cases he
  | receives _ hc => exact Or.inr (Or.inr hc)
  | misses _ _ => exact Or.inl rfl
  | expires _ => trivial
  | answered _ _ _ _ _ => exact told_of_channel h (send_stage _ c) (send_method _ c) (fun r => send_sent)
  | drained => exact told_of_channel h (send_stage _ c) (send_method _ c) (fun r => send_sent)

theorem told (h : (reach d calls es).calls[k]? = some c) : Told c := by
  refine Trace.run_induction (P := fun _ (s : Supervisor) => ∀ c, s.calls[k]? = some c → Told c) ?_ ?_ es c h
  · intro c hc
    unfold Told
    rw [(call_start hc).1]
    trivial
  · intro is i ih c hc
    obtain ⟨b, hb, hm⟩ := moves_step hc
    exact told_moves hm (ih b hb)

/-- **A reply enters the channel of a call** when the reader answers its entry, or when the entries are drained. -/
theorem sent_moves {e : Event} (hm : Moves d s j c e c') (h : c.channel ≠ .sent r) (h' : c'.channel = .sent r) :
    r = .error .disconnected ∨ (e = .reader ∧ ∃ event id p, s.reader = .delivered event ∧ event.kind = .response ∧
      event.requestId = some id ∧ s.pending.lookup (requestKey d id) = some p ∧ p.response = j ∧
      r = replyOf p.method event.message) := by
  have hhang : c.hangUp.channel ≠ .sent r := by
    rw [hangUp_channel]
    by_cases ho : c.channel = .opened
    · rw [if_pos ho]
      exact nofun
    · rw [if_neg ho]
      exact h
  have hcase : ∀ c₁ : Call, c₁ = c ∨ c₁ = c.hangUp → c₁.channel ≠ .sent r := by
    rintro c₁ (rfl | rfl)
    · exact h
    · exact hhang
  cases hm with
  | hangsUp => exact absurd h' hhang
  | registers _ => cases h'
  | fails _ h₁ => exact absurd ((withStage_channel _ _).symm.trans h') (hcase _ h₁)
  | lapses _ h₁ => exact absurd ((withStage_channel _ _).symm.trans h') (hcase _ h₁)
  | answered hr hk hid hp hj =>
    rw [send_channel] at h'
    by_cases ho : c.channel = .opened
    · rw [if_pos ho] at h'
      cases h'
      exact Or.inr ⟨rfl, _, _, _, hr, hk, hid, hp, hj, rfl⟩
    · rw [if_neg ho] at h'
      exact absurd h' h
  | drained =>
    rw [send_channel] at h'
    by_cases ho : c.channel = .opened
    · rw [if_pos ho] at h'
      cases h'
      exact Or.inl rfl
    · rw [if_neg ho] at h'
      exact absurd h' h
  | _ => exact absurd h' h

/-! ## What the reader holds -/

/-- A line of the run holds the message. -/
def Heard (d : Serde) (es : List Event) (message : Value) : Prop :=
  ∃ bytes, Event.line (.data bytes) ∈ es ∧ d.fromSlice bytes = some message

/-- The event is the message's: it is a response when it has an id and no method. -/
def Labels (d : Serde) (es : List Event) (event : CodexEvent) : Prop :=
  Heard d es event.message ∧ event.requestId = event.message.get "id" ∧
    (event.kind = .response → (event.message.get "method").bind Value.asStr = none)

def ReaderHeard (d : Serde) (es : List Event) (s : Supervisor) : Prop :=
  match s.reader with
  | .parsed message  => Heard d es message
  | .labelled event  => Labels d es event
  | .delivered event => Labels d es event
  | _                => True

theorem heard_mono {es' : List Event} {message : Value} (h : Heard d es message) (hsub : ∀ e ∈ es, e ∈ es') :
    Heard d es' message := by
  obtain ⟨bytes, hmem, hparse⟩ := h
  exact ⟨bytes, hsub _ hmem, hparse⟩

theorem labels_mono {es' : List Event} {event : CodexEvent} (h : Labels d es event) (hsub : ∀ e ∈ es, e ∈ es') :
    Labels d es' event := ⟨heard_mono h.1 hsub, h.2⟩

theorem readerHeard_mono {es' : List Event} (h : ReaderHeard d es s) (hsub : ∀ e ∈ es, e ∈ es') {s' : Supervisor}
    (hr : s'.reader = s.reader) : ReaderHeard d es' s' := by
  unfold ReaderHeard at *
  rw [hr]
  split
  · rename_i hs
    rw [hs] at h
    exact heard_mono h hsub
  · rename_i hs
    rw [hs] at h
    exact labels_mono h hsub
  · rename_i hs
    rw [hs] at h
    exact labels_mono h hsub
  · trivial

theorem labels_inbound {message : Value} (h : Heard d es message) : Labels d es (inboundEvent d s message) := by
  refine ⟨h, rfl, fun hk => ?_⟩
  unfold inboundEvent at hk ⊢
  simp only at hk ⊢
  split at hk
  · cases hk
  · cases hk
  · rename_i hm _
    exact hm
  · cases hk

theorem reader_take (s : Supervisor) (key : String) (f : PendingRequest → Call → Call) : (s.take key f).reader = s.reader := by
  unfold Supervisor.take
  split <;> rfl

/-- The steps of the other parties leave the reader where it is. -/
theorem reader_step {e : Event} (h : e ≠ .reader ∧ e ≠ .streamEnds ∧ e ≠ .abort ∧ ∀ l, e ≠ .line l) :
    (step d s e).reader = s.reader := by
  cases e with
  | reader => exact absurd rfl h.1
  | streamEnds => exact absurd rfl h.2.1
  | abort => exact absurd rfl h.2.2.1
  | line l => exact absurd rfl (h.2.2.2 l)
  | call k =>
    simp only [step, onCall]
    split
    · unfold callStep Supervisor.forgetCall
      split
      · rfl
      · exact reader_take s _ _
      · exact reader_take s _ _
      · exact reader_take s _ _
      · rfl
    · rfl
  | submit k =>
    simp only [step, onCall, admitCall]
    (repeat' split) <;> rfl
  | refuse k =>
    simp only [step, onCall, refuseCall]
    (repeat' split) <;> rfl
  | receive k =>
    simp only [step, onCall, receiveReply]
    (repeat' split) <;> rfl
  | expire k =>
    simp only [step, onCall, expireCall]
    (repeat' split) <;> rfl
  | enqueue m =>
    simp only [step, enqueue]
    split <;> rfl
  | write =>
    simp only [step, writerStep]
    split <;> rfl
  | writeFails =>
    simp only [step, writerFails]
    split <;> rfl
  | exit =>
    simp only [step, childExits]
    split <;> rfl
  | watcher =>
    simp only [step, watcherStep]
    split <;> rfl

/-- **The message the reader holds was read from a line.** -/
theorem readerHeard_step {e : Event} (h : ReaderHeard d es s) : ReaderHeard d (es ++ [e]) (step d s e) := by
  have hsub : ∀ i ∈ es, i ∈ es ++ [e] := fun i hi => List.mem_append_left _ hi
  by_cases hother : e ≠ .reader ∧ e ≠ .streamEnds ∧ e ≠ .abort ∧ ∀ l, e ≠ .line l
  · exact readerHeard_mono h hsub (reader_step hother)
  · cases e with
    | line l =>
      show ReaderHeard d _ (takeLine d s l)
      unfold takeLine
      split
      · split
        · rename_i message hmessage
          cases l with
          | data bytes => exact ⟨bytes, by simp, hmessage⟩
          | oversized => cases hmessage
        · unfold ReaderHeard
          by_cases hbudget : maxConsecutiveProtocolErrors ≤ nextError s.consecutiveProtocolErrors
          · rw [if_pos hbudget]
            trivial
          · rw [if_neg hbudget]
            trivial
      · exact readerHeard_mono h hsub rfl
    | streamEnds =>
      show ReaderHeard d _ (streamEnds s)
      unfold streamEnds
      split
      · trivial
      · exact readerHeard_mono h hsub rfl
    | abort => trivial
    | reader =>
      show ReaderHeard d _ (readerStep d s)
      unfold ReaderHeard at h
      unfold readerStep
      split
      · rename_i message hs
        rw [hs] at h
        exact labels_inbound (heard_mono h hsub)
      · rename_i event hs
        rw [hs] at h
        exact labels_mono h hsub
      · trivial
      · exact readerHeard_mono (by unfold ReaderHeard; exact h) hsub rfl
    | _ => exact absurd (by simp) hother

theorem readerHeard (d : Serde) (calls : List (String × Value)) (es : List Event) : ReaderHeard d es (reach d calls es) :=
  Trace.run_induction (P := fun es s => ReaderHeard d es s)
    (show ReaderHeard d [] (start calls) from trivial) (fun _ _ h => readerHeard_step h) es

/-! ## Replies -/

/-- A line that answers a call is lost on the others. -/
theorem answered_once {event : CodexEvent} {id : Value} {p : PendingRequest}
    (hr : s.reader = .delivered event) (hid : event.requestId = some id)
    (hp : s.pending.lookup (requestKey d id) = some p) (hj : j ≠ p.response) :
    (step d s .reader).calls[j]? = s.calls[j]? := by
  show (readerStep d s).calls[j]? = _
  unfold readerStep
  rw [hr]
  show (answer d s event).calls[j]? = _
  unfold answer
  split
  · rename_i id' _ hid'
    rw [hid] at hid'
    cases hid'
    apply call_take_of_ne
    intro q hq
    rw [hp] at hq
    cases hq
    exact hj.symm
  · rfl

/-- A line of the run answered call `k` with `r`: it carries the call's id and no method, the call listened when the reader
came to answer it, and no other call heard it. -/
def AnsweredByLine (d : Serde) (calls : List (String × Value)) (es : List Event) (k : Nat) (r : Reply) : Prop :=
  ∃ pre post event id c bytes, es = pre ++ Event.reader :: post ∧
    (reach d calls pre).reader = .delivered event ∧
    (reach d calls pre).calls[k]? = some c ∧ c.key? = some (requestKey d id) ∧
    event.message.get "id" = some id ∧ (event.message.get "method").bind Value.asStr = none ∧
    Event.line (.data bytes) ∈ pre ∧ d.fromSlice bytes = some event.message ∧ r = replyOf c.method event.message ∧
    ∀ j, j ≠ k → (reach d calls (pre ++ [Event.reader])).calls[j]? =
      (reach d calls pre).calls[j]?

/-- **What a call returns as the app server's reply is what a line said**, and the call listened when the reader came to
answer that line. -/
theorem reply_of_line (hc : (reach d calls es).calls[k]? = some c) (hr : c.stage = .returned r)
    (hs : FromServer r) : AnsweredByLine d calls es k r := by
  have hnot : r ≠ .error .disconnected ∧ r ≠ .error (.timeout c.method) := by
    rcases hs with ⟨v, rfl⟩ | ⟨method, code, message, data, rfl⟩
    · exact ⟨nofun, nofun⟩
    · exact ⟨nofun, nofun⟩
  have hsent : c.channel = .sent r := by
    have ht := told hc
    unfold Told at ht
    rw [hr] at ht
    exact (ht.resolve_left hnot.1).resolve_left hnot.2
  -- the step that put the reply into the channel
  obtain ⟨pre, e, post, rfl, hbefore, c₁, hc₁, hsent₁⟩ :=
    @Trace.onset Supervisor Event (step d) (fun s : Supervisor => ∃ c, s.calls[k]? = some c ∧ c.channel = .sent r)
      (start calls) (by
        rintro ⟨c, hc, hch⟩
        rw [(call_start hc).2] at hch
        cases hch) es ⟨c, hc, hsent⟩
  obtain ⟨c₀, hc₀, hm⟩ := moves_step hc₁
  have hnew : c₀.channel ≠ .sent r := fun h => hbefore ⟨c₀, hc₀, h⟩
  obtain ⟨rfl, event, id, p, hreader, hkind, hid, hp, hj, hreply⟩ := (sent_moves hm hnew hsent₁).resolve_left hnot.1
  obtain ⟨a, ha, hkey, hmethod⟩ := (exact_reach d calls pre (requestKey d id) p).1 hp
  rw [hj] at ha
  obtain rfl : c₀ = a := Option.some.inj (hc₀.symm.trans ha)
  have hheard := readerHeard d calls pre
  have hreader' : (reach d calls pre).reader = .delivered event := hreader
  unfold ReaderHeard at hheard
  rw [hreader'] at hheard
  obtain ⟨⟨bytes, hline, hparse⟩, hidm, hmethodm⟩ := hheard
  refine ⟨pre, post, event, id, c₀, bytes, rfl, hreader, hc₀, hkey, hidm.symm.trans hid, hmethodm hkind, hline, hparse,
    hmethod ▸ hreply, fun j hjk => ?_⟩
  rw [reach_snoc]
  exact answered_once hreader hid hp (fun h => hjk (h.trans hj))

section Echo

def answered1 : Value := .obj [("id", .num (.pos 1)), ("result", .bool true)]

/-- The bytes of `{"id":1,"result":true}`. -/
def answered1Line : List UInt8 :=
  [123, 34, 105, 100, 34, 58, 49, 44, 34, 114, 101, 115, 117, 108, 116, 34, 58, 116, 114, 117, 101, 125]

def answered2 : Value := .obj [("id", .num (.pos 1)), ("result", .bool false)]

/-- The bytes of `{"id":1,"result":false}`. -/
def answered2Line : List UInt8 :=
  [123, 34, 105, 100, 34, 58, 49, 44, 34, 114, 101, 115, 117, 108, 116, 34, 58, 102, 97, 108, 115, 101, 125]

/-- Reads these two frames. -/
def echo : Serde where
  toText
    | .num n => n.text
    | _      => ""
  fromSlice := fun bytes =>
    if bytes = answered1Line then some answered1 else if bytes = answered2Line then some answered2 else none

def asked : List Event := [.call 0, .call 0, .submit 0, .line (.data answered1Line), .reader, .reader]

theorem reply_of_line_echo :
    AnsweredByLine echo [("account/read", .null)] (asked ++ [.reader, .receive 0]) 0 (.ok (.bool true)) := by
  have hc : (reach echo [("account/read", .null)] (asked ++ [.reader, .receive 0])).calls[0]? =
      some ⟨"account/read", .null, .returned (.ok (.bool true)), .sent (.ok (.bool true))⟩ := by decide +kernel
  exact reply_of_line hc rfl (Or.inl ⟨_, rfl⟩)

end Echo

/-- What is in a channel stays there, and the call takes no new one. -/
theorem settled_moves {e : Event} (hm : Moves d s j c e c') (hc : c.channel = .sent r)
    (hs : ∀ id, c.stage ≠ .idle ∧ c.stage ≠ .numbered id) :
    c'.channel = .sent r ∧ ∀ id, c'.stage ≠ .idle ∧ c'.stage ≠ .numbered id := by
  have hcase : ∀ c₁ : Call, c₁ = c ∨ c₁ = c.hangUp → c₁.channel = .sent r := by
    rintro c₁ (rfl | rfl)
    · exact hc
    · exact hangUp_sent hc
  cases hm with
  | stays => exact ⟨hc, hs⟩
  | hangsUp => exact ⟨hangUp_sent hc, by rw [hangUp_stage]; exact hs⟩
  | numbers h => exact absurd h (hs 0).1
  | registers h => exact absurd h (hs _).2
  | fails _ h₁ => exact ⟨(withStage_channel _ _).trans (hcase _ h₁), fun id => ⟨nofun, nofun⟩⟩
  | lapses _ h₁ => exact ⟨(withStage_channel _ _).trans (hcase _ h₁), fun id => ⟨nofun, nofun⟩⟩
  | answered _ _ _ _ _ => exact ⟨send_sent hc, by rw [send_stage]; exact hs⟩
  | drained => exact ⟨send_sent hc, by rw [send_stage]; exact hs⟩
  | _ => exact ⟨hc, fun id => ⟨nofun, nofun⟩⟩

/-- **The first response counts**: once the reader has answered a call, nothing that happens later replaces its reply. -/
theorem first_response {es' : List Event} {event : CodexEvent} {id : Value}
    (hc : (reach d calls es).calls[k]? = some c) (hkey : c.key? = some (requestKey d id))
    (hr : (reach d calls es).reader = .delivered event) (hk : event.kind = .response) (hid : event.requestId = some id)
    (hc' : (reach d calls (es ++ Event.reader :: es')).calls[k]? = some c') :
    c'.channel = .sent (replyOf c.method event.message) ∧
      ∀ r, c'.stage = .returned r → r = replyOf c.method event.message ∨ r = .error .disconnected ∨
        r = .error (.timeout c'.method) := by
  have hp := (exact_reach d calls es _ ⟨c.method, k⟩).2 ⟨c, hc, hkey, rfl⟩
  have hopen : c.channel = .opened := by
    by_contra h
    rw [key_of_channel h] at hkey
    cases hkey
  have hstage : ∀ id, c.stage ≠ .idle ∧ c.stage ≠ .numbered id := by
    intro id
    refine ⟨fun h => ?_, fun h => ?_⟩
    · rw [key_of_stage (by rw [h]; rfl)] at hkey
      cases hkey
    · rw [key_of_stage (by rw [h]; rfl)] at hkey
      cases hkey
  have hnow : (step d (reach d calls es) .reader).calls[k]? = some (c.send (replyOf c.method event.message)) := by
    show (readerStep d _).calls[k]? = _
    unfold readerStep
    rw [hr]
    show (answer d _ event).calls[k]? = _
    unfold answer
    rw [hk, hid]
    show ((reach d calls es).take _ _).calls[k]? = _
    unfold Supervisor.take
    rw [hp]
    exact (call_update _ k _ k).trans (by rw [if_pos rfl, hc]; rfl)
  have hkeep : ∀ is a, (reach d calls (es ++ Event.reader :: is)).calls[k]? = some a →
      a.channel = .sent (replyOf c.method event.message) ∧ ∀ id, a.stage ≠ .idle ∧ a.stage ≠ .numbered id := by
    intro is
    induction is using List.reverseRecOn with
    | nil =>
      intro a ha
      rw [reach_snoc, hnow] at ha
      cases ha
      rw [send_channel, if_pos hopen, send_stage]
      exact ⟨rfl, hstage⟩
    | append_singleton is i ih =>
      intro a ha
      have happ : es ++ Event.reader :: (is ++ [i]) = (es ++ Event.reader :: is) ++ [i] := by simp
      rw [happ, reach_snoc] at ha
      obtain ⟨b, hb, hm⟩ := moves_step ha
      obtain ⟨hch, hst⟩ := ih b hb
      exact settled_moves hm hch hst
  refine ⟨(hkeep es' c' hc').1, fun r hret => ?_⟩
  have ht := told hc'
  unfold Told at ht
  rw [hret] at ht
  rcases ht with h | h | h
  · exact Or.inr (Or.inl h)
  · exact Or.inr (Or.inr h)
  · rw [(hkeep es' c' hc').1] at h
    exact Or.inl (Channel.sent.inj h).symm

/-- A second response to the same call, with another result, and a timeout come too late. -/
theorem first_response_echo :
    ∃ c, (reach echo [("account/read", .null)] (asked ++ Event.reader :: [.line (.data answered2Line), .reader, .reader,
      .reader, .receive 0, .expire 0])).calls[0]? = some c ∧ c.channel = .sent (replyOf "account/read" answered1) := by
  have hc : (reach echo [("account/read", .null)] asked).calls[0]? =
      some ⟨"account/read", .null, .waiting 1, .opened⟩ := by decide +kernel
  have hr : (reach echo [("account/read", .null)] asked).reader =
      .delivered ⟨.inbound, .response, "response:account/read", some (.num (.pos 1)), answered1⟩ := by decide +kernel
  have hc' : (reach echo [("account/read", .null)] (asked ++ Event.reader :: [.line (.data answered2Line), .reader, .reader,
      .reader, .receive 0, .expire 0])).calls[0]? =
        some ⟨"account/read", .null, .returned (.ok (.bool true)), .sent (.ok (.bool true))⟩ := by decide +kernel
  exact ⟨_, hc', (first_response hc (by decide) hr rfl rfl hc').1⟩

end AppServer
