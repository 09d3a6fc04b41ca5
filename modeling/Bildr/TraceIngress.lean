import Bildr.Alike
import Bildr.TraceCustody
/-!
# TraceIngress — untrusted ingress does not reach a trace

Two inputs that agree on what the controller owns, and whose receipts have the same projected kinds, ranks, reasoning
flags and shapes, have one projection (`ingress_withheld`): threads, turns, directions, request ids, methods, payloads and
structural metadata play no other part.  An event type that is empty is refused, so the inputs agree on that as well.
-/
namespace Bildr
namespace TraceDag

open List (Forall₂)
open SortBy (sortBy)

/-! ## Agreement -/

structure AgreeRaw (h : Hashes) (e e' : RawEventReceipt) : Prop where
  id : e.id = e'.id
  scope : e.executionScopeId = e'.executionScopeId
  group : e.lifecycleGroupId = e'.lifecycleGroupId
  receivedAt : e.receivedAt = e'.receivedAt
  sequence : e.sourceSequence = e'.sourceSequence
  redactionClass : e.redactionClass = e'.redactionClass
  kind : rawKind e = rawKind e'
  rank : itemStateRank e = itemStateRank e'
  flag : reasoning e.payload e.redactionClass = reasoning e'.payload e'.redactionClass
  shape : shape e.payload = shape e'.payload
  left : h.payloadDigest e.payload = e.payloadSha256
  right : h.payloadDigest e'.payload = e'.payloadSha256

structure AgreeDomain (h : Hashes) (e e' : DomainEventReceipt) : Prop where
  id : e.id = e'.id
  occurredAt : e.occurredAt = e'.occurredAt
  redactionClass : e.redactionClass = e'.redactionClass
  kind : structuralKind e.eventType = structuralKind e'.eventType
  flag : reasoning e.payload e.redactionClass = reasoning e'.payload e'.redactionClass
  shape : shape e.payload = shape e'.payload
  left : h.payloadDigest e.payload = e.payloadSha256
  right : h.payloadDigest e'.payload = e'.payloadSha256

structure AgreeStructural (r r' : StructuralReceipt) : Prop where
  id : r.id = r'.id
  occurredAt : r.occurredAt = r'.occurredAt
  kind : structuralKind r.kind = structuralKind r'.kind

def NamedAlike (e e' : DomainEventReceipt) : Prop := e.eventType.isEmpty = e'.eventType.isEmpty

/-- Inputs that agree on what the controller owns and on what is projected of the rest. -/
structure Agree (h : Hashes) (i j : TraceInput) : Prop where
  traceId : i.traceId = j.traceId
  runId : i.runId = j.runId
  taskAttemptId : i.taskAttemptId = j.taskAttemptId
  runtimeDigest : i.runtimeDigest = j.runtimeDigest
  redactionPolicyDigest : i.redactionPolicyDigest = j.redactionPolicyDigest
  sensitivity : i.sensitivity = j.sensitivity
  raw : Forall₂ (AgreeRaw h) i.rawEvents j.rawEvents
  domain : Forall₂ (AgreeDomain h) i.domainEvents j.domainEvents
  structural : Forall₂ AgreeStructural i.structuralReceipts j.structuralReceipts
  relations : i.relations = j.relations

section Receipts
variable {h : Hashes} {e e' : RawEventReceipt} {l l' : List RawEventReceipt}

theorem checkRawEvent_agree (he : AgreeRaw h e e') (seen : List Int) : checkRawEvent h seen e = checkRawEvent h seen e' := by
  unfold checkRawEvent
  rw [(consistent_iff e.payload e.payloadSha256).2 he.left, (consistent_iff e'.payload e'.payloadSha256).2 he.right, he.id,
    he.scope, he.group]

theorem checkDomainEvent_agree {d d' : DomainEventReceipt} (hd : AgreeDomain h d d') (hnamed : NamedAlike d d')
    (seen : List Int) : checkDomainEvent h seen d = checkDomainEvent h seen d' := by
  unfold NamedAlike at hnamed
  unfold checkDomainEvent
  rw [(consistent_iff d.payload d.payloadSha256).2 hd.left, (consistent_iff d'.payload d'.payloadSha256).2 hd.right, hd.id,
    hnamed]

theorem validateReceipts_agree {i j : TraceInput} (ha : Agree h i j)
    (hnamed : Forall₂ NamedAlike i.domainEvents j.domainEvents) : validateReceipts h i = validateReceipts h j := by
  unfold validateReceipts headerFields
  rw [ha.traceId, ha.runId, ha.taskAttemptId, ha.runtimeDigest, ha.redactionPolicyDigest, ha.sensitivity,
    Alike.foldlM_eq (fun _ _ he => checkRawEvent_agree he) ha.raw,
    Alike.foldlM_eq (fun _ _ hd => checkDomainEvent_agree hd.1 hd.2) (Alike.both ha.domain hnamed),
    Alike.foldlM_eq (g := checkStructural) (fun _ _ hr seen => by unfold checkStructural; rw [hr.id]) ha.structural,
    Alike.forM_eq (g := checkStructuralId) (fun _ _ hr => by unfold checkStructuralId; rw [hr.id]) ha.structural]

theorem AgreeRaw.hasSequence (he : AgreeRaw h e e') : hasSequence e = hasSequence e' := by
  unfold TraceDag.hasSequence
  rw [he.sequence]

theorem AgreeRaw.receiptOrder (he : AgreeRaw h e e') : receiptOrder e = receiptOrder e' := by
  unfold TraceDag.receiptOrder
  rw [he.receivedAt, he.id]

theorem AgreeRaw.eventOrder (he : AgreeRaw h e e') : eventOrder e = eventOrder e' := by
  unfold TraceDag.eventOrder RawEventReceipt.sequence
  rw [he.sequence, he.receivedAt, he.id]

theorem AgreeRaw.groupKey (he : AgreeRaw h e e') : e.groupKey = e'.groupKey := by
  unfold RawEventReceipt.groupKey
  rw [he.group, he.scope, he.id]

theorem redact_agree {payload payload' : Json.Value} {inputClass inputClass' : String} (hclass : inputClass = inputClass')
    (hflag : reasoning payload inputClass = reasoning payload' inputClass') (hshape : shape payload = shape payload') :
    redact payload inputClass = redact payload' inputClass' := by
  unfold redact outputClass
  rw [hflag, hshape, hclass]

theorem inScope_agree (scope : String) (he : AgreeRaw h e e') : inScope scope e = inScope scope e' := by
  unfold inScope
  rw [he.scope]

/-! ## Events in order -/

theorem ambiguousScopes_agree (hl : Forall₂ (AgreeRaw h) l l') : ambiguousScopes l = ambiguousScopes l' := by
  unfold ambiguousScopes
  rw [Alike.filterMap_eq (fun _ _ he => he.scope) hl]
  refine List.filter_congr (fun scope _ => ?_)
  rw [Alike.any_eq (g := fun e => inScope scope e && hasSequence e)
      (fun _ _ he => by rw [inScope_agree scope he, he.hasSequence]) hl,
    Alike.any_eq (g := fun e => inScope scope e && !hasSequence e)
      (fun _ _ he => by rw [inScope_agree scope he, he.hasSequence]) hl]

theorem ambiguousDiagnostic_agree (hl : Forall₂ (AgreeRaw h) l l') (scope : String) :
    ambiguousDiagnostic l scope = ambiguousDiagnostic l' scope := by
  unfold ambiguousDiagnostic
  rw [Alike.map_eq (g := fun e => SourceReceipt.rawEvent e.id) (fun _ _ he => by rw [AgreeRaw.id he])
    (Alike.filter (fun _ _ he => inScope_agree scope he) hl)]

theorem orderEvents_agree (hl : Forall₂ (AgreeRaw h) l l') :
    Forall₂ (AgreeRaw h) (orderEvents l).1 (orderEvents l').1 ∧ (orderEvents l).2 = (orderEvents l').2 := by
  refine ⟨Alike.sort (fun _ _ he => AgreeRaw.receiptOrder he) hl, ?_⟩
  unfold orderEvents
  rw [ambiguousScopes_agree hl]
  exact List.map_congr_left (fun scope _ => ambiguousDiagnostic_agree hl scope)

theorem orderGroup_agree (hl : Forall₂ (AgreeRaw h) l l') : Forall₂ (AgreeRaw h) (orderGroup l) (orderGroup l') := by
  unfold orderGroup
  rw [Alike.any_eq (g := fun e => !hasSequence e) (fun _ _ he => by rw [AgreeRaw.hasSequence he]) hl,
    Alike.any_eq (fun _ _ he => AgreeRaw.hasSequence he) hl]
  split
  · exact Alike.sort (fun _ _ he => AgreeRaw.receiptOrder he) hl
  · exact Alike.sort (fun _ _ he => AgreeRaw.eventOrder he) hl

/-! ## Candidates -/

theorem maxByKey_agree {α β κ : Type} [LinearOrder κ] {R : α → β → Prop} {f : α → κ} {g : β → κ}
    (hfg : ∀ a b, R a b → f a = g b) {l : List α} {m : List β} (hlm : Forall₂ R l m) :
    (maxByKey f l = none ∧ maxByKey g m = none) ∨ ∃ a b, maxByKey f l = some a ∧ maxByKey g m = some b ∧ R a b := by
  have hfold : ∀ {l : List α} {m : List β}, Forall₂ R l m → ∀ {a : α} {b : β}, R a b → ∃ a' b',
      l.foldl (fun best a => some (best.elim a (fun b => if f b ≤ f a then a else b))) (some a) = some a' ∧
      m.foldl (fun best a => some (best.elim a (fun b => if g b ≤ g a then a else b))) (some b) = some b' ∧ R a' b' := by
    intro l m hlm
    induction hlm with
    | nil => exact fun hab => ⟨_, _, rfl, rfl, hab⟩
    | cons hcd hrest ih =>
      intro a b hab
      rw [List.foldl_cons, List.foldl_cons, Option.elim_some, Option.elim_some, hfg _ _ hab, hfg _ _ hcd]
      split
      · exact ih hcd
      · exact ih hab
  cases hlm with
  | nil => exact Or.inl ⟨rfl, rfl⟩
  | cons hab hrest => exact Or.inr (hfold hrest hab)

theorem rawNode_agree (hl : Forall₂ (AgreeRaw h) l l') (he : AgreeRaw h e e') : rawNode h l e = rawNode h l' e' := by
  unfold rawNode
  rw [he.kind, redact_agree he.redactionClass he.flag he.shape, he.receivedAt, hl.length_eq,
    Alike.map_eq (g := fun e => SourceReceipt.rawEvent e.id) (fun _ _ he => by rw [AgreeRaw.id he]) hl]

theorem rawCandidate_agree (key : String) (hl : Forall₂ (AgreeRaw h) l l') :
    rawCandidate h key l = rawCandidate h key l' := by
  have hkey : ∀ e e', AgreeRaw h e e' → latestKey e = latestKey e' := by
    intro e e' he
    unfold latestKey
    rw [he.rank, he.eventOrder]
  unfold rawCandidate
  rcases maxByKey_agree hkey hl with ⟨hnone, hnone'⟩ | ⟨e, e', hsome, hsome', he⟩
  · rw [hnone, hnone']
    rfl
  · rw [hsome, hsome']
    show Except.ok _ = Except.ok _
    rw [rawNode_agree hl he, he.scope, he.eventOrder]

theorem groupRawEvents_agree (hl : Forall₂ (AgreeRaw h) l l') : groupRawEvents h l = groupRawEvents h l' := by
  have hmembers : ∀ key : GroupKey, rawCandidate h (key.text h) (orderGroup (groupMembers l key)) =
      rawCandidate h (key.text h) (orderGroup (groupMembers l' key)) := by
    intro key
    refine rawCandidate_agree _ (orderGroup_agree (Alike.filter (fun _ _ he => ?_) hl))
    rw [AgreeRaw.groupKey he]
  unfold groupRawEvents
  rw [Alike.mapM_eq (fun _ _ he => AgreeRaw.groupKey he) hl, funext hmembers,
    Alike.flatMap_eq (g := sequenceDiagnostic) (fun _ _ he => ?_) hl]
  unfold sequenceDiagnostic
  rw [he.sequence, he.hasSequence, he.id]

theorem domainCandidate_agree {d d' : DomainEventReceipt} (hd : AgreeDomain h d d') :
    domainCandidate h d = domainCandidate h d' := by
  unfold domainCandidate
  rw [redact_agree hd.redactionClass hd.flag hd.shape, hd.id, hd.kind, hd.occurredAt]

theorem structuralCandidate_agree {r r' : StructuralReceipt} (hr : AgreeStructural r r') :
    structuralCandidate h r = structuralCandidate h r' := by
  unfold structuralCandidate structuralReceiptParts
  rw [hr.id, hr.kind, hr.occurredAt]

theorem sourceEventRange_agree (hl : Forall₂ (AgreeRaw h) l l') : sourceEventRange l = sourceEventRange l' := by
  cases hl with
  | nil => rfl
  | cons he hrest =>
    simp only [sourceEventRange]
    rw [he.id, Alike.map_eq (g := RawEventReceipt.id) (fun _ _ he => AgreeRaw.id he) hrest]

theorem isEmpty_agree {α β : Type} {R : α → β → Prop} {l : List α} {m : List β} (hlm : Forall₂ R l m) :
    l.isEmpty = m.isEmpty := by
  cases hlm <;> rfl

end Receipts

/-- **What is not projected does not reach the manifest**: inputs that agree, and have empty event types in the same
places, have one projection. -/
theorem ingress_withheld (h : Hashes) (i j : TraceInput) (ha : Agree h i j)
    (hnamed : Forall₂ NamedAlike i.domainEvents j.domainEvents) : project h i = project h j := by
  obtain ⟨hevents, hdiagnostics⟩ := orderEvents_agree ha.raw
  have hcandidates : allCandidates h i = allCandidates h j := by
    funext groups
    unfold allCandidates
    rw [Alike.map_eq (fun _ _ hd => domainCandidate_agree hd) ha.domain,
      Alike.map_eq (fun _ _ hr => structuralCandidate_agree hr) ha.structural]
  have hmanifest : manifestOf h i = manifestOf h j := by
    funext candidates edges diagnostics found truncated
    unfold manifestOf
    rw [ha.traceId, ha.runId, ha.taskAttemptId, ha.runtimeDigest, ha.redactionPolicyDigest, ha.sensitivity,
      sourceEventRange_agree hevents]
  have hconnect : connectCandidates h i = connectCandidates h j := by
    funext candidates diagnostics
    unfold connectCandidates
    rw [ha.relations, hmanifest]
  unfold project
  rw [validateReceipts_agree ha hnamed, groupRawEvents_agree hevents, hdiagnostics, hcandidates, hconnect, isEmpty_agree ha.raw,
    isEmpty_agree ha.structural, isEmpty_agree ha.domain]

/-- The item with another thread, turn, direction, request and text, and a restart with metadata. -/
def otherIngress : TraceInput :=
  { itemInput with
    rawEvents :=
      [{ itemStarted with
          threadId := some "thread-9"
          turnId := none
          direction := "outbound"
          requestId := some "7"
          payload := agentMessage "other"
          payloadSha256 := "9830a4b278d390e1e9b8d09b3b4dda63f4d9c44757b4612e55e9b52f9f8d8317" }, itemCompleted]
    structuralReceipts := [⟨"restart-1", "restart", some 1002, [("note", .str "by hand")]⟩] }

theorem ingress_withheld_item : project itemHashes itemInput = project itemHashes otherIngress := by
  refine ingress_withheld itemHashes itemInput otherIngress ⟨rfl, rfl, rfl, rfl, rfl, rfl, ?_, .nil, ?_, rfl⟩ .nil
  · refine .cons ?_ (.cons ?_ .nil)
    · exact ⟨rfl, rfl, rfl, rfl, rfl, rfl, by decide, rfl, by decide, rfl, by decide,
        by decide⟩
    · exact ⟨rfl, rfl, rfl, rfl, rfl, rfl, rfl, rfl, rfl, rfl, by decide, by decide⟩
  · exact .cons ⟨rfl, rfl, rfl⟩ .nil

def eventInput (eventType : String) : TraceInput :=
  { itemInput with
    domainEvents := [⟨1, eventType, 1000, agentMessage "first",
      "9c1fc770453f102b92678798ae0ad6eaa5007b0b5bf388cd95d32ad28686d370", "none"⟩] }

/-- An empty event type is refused, one without a kind of its own is projected. -/
theorem empty_event_type_refused :
    Agree itemHashes (eventInput "") (eventInput "note") ∧
      project itemHashes (eventInput "") ≠ project itemHashes (eventInput "note") := by
  have hevent : ∀ e ∈ itemInput.rawEvents, AgreeRaw itemHashes e e := by
    intro e he
    have hdigest : itemHashes.payloadDigest e.payload = e.payloadSha256 := by
      revert e
      decide
    exact ⟨rfl, rfl, rfl, rfl, rfl, rfl, rfl, rfl, rfl, rfl, hdigest, hdigest⟩
  refine ⟨⟨rfl, rfl, rfl, rfl, rfl, rfl, ?_, ?_, ?_, rfl⟩, by decide⟩
  · exact List.forall₂_same.2 hevent
  · exact .cons ⟨rfl, rfl, rfl, by decide, rfl, rfl, by decide, by decide⟩ .nil
  · exact List.forall₂_same.2 (fun _ _ => ⟨rfl, rfl, rfl⟩)

end TraceDag
end Bildr
