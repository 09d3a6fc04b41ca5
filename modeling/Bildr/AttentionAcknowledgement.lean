import Bildr.AttentionShared
import Mathlib
/-!
# AttentionAcknowledgement — which open items can be acknowledged

An acknowledgement stands or falls with its link, which names the acknowledged version by the item's id and `:v2`.  The
id may have 160 characters and so may what the link names, so an item whose id has more than 157 is opened and can
never be acknowledged; any other can, unless links of others stand in the way of its own in the item's trace
(`acknowledged_iff`).
-/
namespace Bildr
namespace Control

open Improvement (isSafeOperatorControlIdentifier)
open Relation (TransGen ReflTransGen)

/-! ## One edge more -/

theorem path_insert {α : Type} {r : α → α → Prop} {a b x y : α} (h : TransGen (fun u v => r u v ∨ u = a ∧ v = b) x y) :
    TransGen r x y ∨ ReflTransGen r x a ∧ ReflTransGen r b y := by
  induction h with
  | single hstep =>
    rcases hstep with hstep | ⟨rfl, rfl⟩
    · exact Or.inl (TransGen.single hstep)
    · exact Or.inr ⟨ReflTransGen.refl, ReflTransGen.refl⟩
  | tail _ hstep ih =>
    rcases hstep with hstep | ⟨rfl, rfl⟩
    · exact ih.imp (fun hpath => hpath.tail hstep) (fun hpath => ⟨hpath.1, hpath.2.tail hstep⟩)
    · rcases ih with hpath | hpath
      · exact Or.inr ⟨hpath.to_reflTransGen, ReflTransGen.refl⟩
      · exact Or.inr ⟨hpath.1, ReflTransGen.refl⟩

theorem acyclic_insert {α : Type} {r : α → α → Prop} (hr : ∀ n, ¬ TransGen r n n) {a b : α} :
    (∀ n, ¬ TransGen (fun u v => r u v ∨ u = a ∧ v = b) n n) ↔ ¬ ReflTransGen r b a := by
  constructor
  · intro hnone hback
    have hpath : ReflTransGen (fun u v => r u v ∨ u = a ∧ v = b) b a := ReflTransGen.mono (fun _ _ hstep => Or.inl hstep) _ _ hback
    exact hnone a (TransGen.head' (Or.inr ⟨rfl, rfl⟩) hpath)
  · intro hback n hcycle
    rcases path_insert hcycle with hcycle | ⟨hto, hfrom⟩
    · exact hr n hcycle
    · exact hback (hfrom.trans hto)

/-! ## What stands in the way of a link -/

def othersOf (t : Links) (l : CorrelationLink) : List CorrelationLink :=
  (linksOf t l.trace.traceId).filter (fun r => r.linkId != l.linkId)

/-- Nothing stands in the way of a link: its id is free, and in its trace there is room, the causality is new, and no path
leads back. -/
structure Unobstructed (t : Links) (l : CorrelationLink) : Prop where
  free : ∀ r, t.get l.linkId = some r → r = l
  room : (othersOf t l).length < 8192
  new : ∀ r ∈ othersOf t l, r.causality ≠ l.causality
  ahead : ¬ ReflTransGen (Leads (othersOf t l)) l.target l.source

theorem leads_append {links : List CorrelationLink} {l : CorrelationLink} :
    Leads (links ++ [l]) = fun u v => Leads links u v ∨ u = l.source ∧ v = l.target := by
  funext u v
  refine propext ⟨fun ⟨r, hr, hs, ht⟩ => ?_, fun h => ?_⟩
  · rcases List.mem_append.1 hr with hr | hr
    · exact Or.inl ⟨r, hr, hs, ht⟩
    · obtain rfl := List.mem_singleton.1 hr
      exact Or.inr ⟨hs.symm, ht.symm⟩
  · rcases h with ⟨r, hr, hs, ht⟩ | ⟨rfl, rfl⟩
    · exact ⟨r, List.mem_append_left _ hr, hs, ht⟩
    · exact ⟨l, List.mem_append_right _ List.mem_cons_self, rfl, rfl⟩

theorem pass_append_iff {links : List CorrelationLink} {l : CorrelationLink} (h : validateCausalLinks links = .ok ()) :
    validateCausalLinks (links ++ [l]) = .ok () ↔ l.validate = .ok () ∧ links.length < 8192 ∧
      (∀ r ∈ links, r.causality ≠ l.causality) ∧ ¬ ReflTransGen (Leads links) l.target l.source := by
  obtain ⟨-, hvalid, hnodup, hacyclic⟩ := validateCausalLinks_iff.1 h
  rw [validateCausalLinks_iff, leads_append, acyclic_insert hacyclic, List.length_append, List.length_singleton,
    List.map_append, List.nodup_append]
  simp only [List.map_cons, List.map_nil, List.mem_append, List.mem_singleton]
  constructor
  · rintro ⟨hlength, hall, ⟨-, -, hnew⟩, hback⟩
    exact ⟨hall l (Or.inr rfl), hlength, fun r hr => hnew _ (List.mem_map_of_mem hr) _ rfl, hback⟩
  · rintro ⟨hl, hlength, hnew, hback⟩
    refine ⟨hlength, fun r hr => ?_, ⟨hnodup, List.nodup_singleton _, fun c hc d hd => ?_⟩, hback⟩
    · rcases hr with hr | rfl
      · exact hvalid r hr
      · exact hl
    · obtain ⟨r, hr, rfl⟩ := List.mem_map.1 hc
      exact hd ▸ hnew r hr

theorem unobstructed_stored {t : Links} {l : CorrelationLink} (hs : Sound t) (hl : t.get l.linkId = some l) : Unobstructed t l := by
  obtain ⟨hlength, -, hnodup, hacyclic⟩ := validateCausalLinks_iff.1 (hs l.trace.traceId)
  have hmem : l ∈ linksOf t l.trace.traceId := List.mem_filter.2 ⟨Table.mem_of_get hl, beq_self_eq_true _⟩
  refine ⟨fun r hr => Option.some.inj (hr.symm.trans hl), lt_of_lt_of_le ?_ hlength, fun r hr hsame => ?_, fun hback => ?_⟩
  · exact List.length_filter_lt_length_iff_exists.2 ⟨l, hmem, by simp⟩
  · obtain ⟨hr, hid⟩ := List.mem_filter.1 hr
    have hrl : r = l := List.inj_on_of_nodup_map hnodup hr hmem hsame
    rw [hrl] at hid
    simp at hid
  · have hpath : ReflTransGen (Leads (linksOf t l.trace.traceId)) l.target l.source :=
      ReflTransGen.mono (fun _ _ ⟨r, hr, hends⟩ => ⟨r, (List.mem_filter.1 hr).1, hends⟩) _ _ hback
    exact hacyclic l.source (TransGen.head' ⟨l, hmem, rfl, rfl⟩ hpath)

theorem record_unobstructed_iff {t : Links} {l : CorrelationLink} (hs : Sound t) :
    (∃ t', recordCorrelationLinkInTransaction t l = .ok t') ↔ l.validate = .ok () ∧ Unobstructed t l := by
  cases hg : t.get l.linkId with
  | some r =>
    by_cases hsame : r = l
    · subst hsame
      have hvalid := sound_valid hs (Table.mem_of_get hg)
      have hrecord : recordCorrelationLinkInTransaction t r = .ok t := by
        unfold recordCorrelationLinkInTransaction
        rw [hvalid, ok_bind, hg]
        simp
      exact ⟨fun _ => ⟨hvalid, unobstructed_stored hs hg⟩, fun _ => ⟨t, hrecord⟩⟩
    · refine ⟨fun ⟨t', h⟩ => ?_, fun h => absurd (h.2.free r hg) hsame⟩
      rcases record_cases h with ⟨hstored, -⟩ | ⟨hnone, -⟩
      · exact absurd (Option.some.inj (hg.symm.trans hstored)) hsame
      · rw [hg] at hnone
        cases hnone
  | none =>
    have hothers : othersOf t l = linksOf t l.trace.traceId := by
      refine List.filter_eq_self.2 fun r hr => ?_
      simpa using Table.get_none.1 hg r (List.mem_filter.1 hr).1
    have hpass := pass_append_iff (l := l) (hs l.trace.traceId)
    have hway : Unobstructed t l ↔ (linksOf t l.trace.traceId).length < 8192 ∧
        (∀ r ∈ linksOf t l.trace.traceId, r.causality ≠ l.causality) ∧
        ¬ ReflTransGen (Leads (linksOf t l.trace.traceId)) l.target l.source := by
      rw [← hothers]
      refine ⟨fun h => ⟨h.room, h.new, h.ahead⟩, fun h => ⟨fun r hr => ?_, h.1, h.2.1, h.2.2⟩⟩
      rw [hg] at hr
      cases hr
    rw [hway, ← hpass]
    constructor
    · rintro ⟨t', h⟩
      rcases record_cases h with ⟨hsame, -⟩ | ⟨-, hv, -⟩
      · rw [hg] at hsame
        cases hsame
      · exact (validateCausalLinks_perm ((linkPage_perm hs l.trace.traceId).append_right [l])).1 hv
    · exact record_of_pass hs hg

/-! ## The acknowledgement of an open item -/

def acknowledgementLink (w : Wire) (id : String) (now : Int) : CorrelationLink where
  schema := "harness.correlation-link.v1"
  linkId := "correlation-" ++ (w.sha256 ("harness.attention.link.v1:" ++ (id ++ ":acknowledged:v2"))).take 48
  trace := ⟨(w.sha256 ("harness.attention.trace.v1:" ++ id)).take 32,
    (w.sha256 ("harness.attention.span.v1:" ++ (id ++ ":acknowledged:v2"))).take 16,
    some ((w.sha256 ("harness.attention.span.v1:" ++ (id ++ ":opened:v1"))).take 16)⟩
  fromKind := "attention"
  fromId := id
  toKind := "attention_acknowledgement"
  toId := id ++ ":v2"
  relation := "acknowledges_attention"
  createdAtMs := now

structure DigestsApart (w : Wire) (id : String) : Prop where
  trace : allZero (acknowledgementLink w id 0).trace.traceId = false
  span : allZero (acknowledgementLink w id 0).trace.spanId = false
  opening : ∀ parent, (acknowledgementLink w id 0).trace.parentSpanId = some parent →
    allZero parent = false ∧ parent ≠ (acknowledgementLink w id 0).trace.spanId

section Acknowledged
variable {w : Wire} {t : AttentionTables} {i : AttentionItem} {now : Int}

def AttentionItem.acknowledged (i : AttentionItem) (now : Int) : AttentionItem :=
  { i with state := .acknowledged, acknowledgedAtMs := some now, version := i.version + 1 }

theorem acknowledged_link (hversion : i.version = 1) :
    attentionCorrelationLink w (i.acknowledged now) .acknowledged = .ok (acknowledgementLink w i.attentionId now) := by
  have hnumber : toString (i.acknowledged now).version = "2" := by
    show toString (i.version + 1) = "2"
    rw [hversion]
    rfl
  have htext : attentionText (i.acknowledged now) .acknowledged = i.attentionId ++ ":acknowledged:v2" := by
    unfold attentionText
    rw [hnumber, String.append_assoc, String.append_assoc, String.append_assoc]
    rfl
  have hto : (i.acknowledged now).attentionId ++ ":v" ++ toString (i.acknowledged now).version = i.attentionId ++ ":v2" := by
    rw [hnumber, String.append_assoc]
    rfl
  have hopening : openingSpan w (i.acknowledged now) =
      (w.sha256 ("harness.attention.span.v1:" ++ (i.attentionId ++ ":opened:v1"))).take 16 := by
    unfold openingSpan
    rw [String.append_assoc]
    rfl
  unfold attentionCorrelationLink attentionLinkOf
  dsimp only
  rw [linkIdOf_eq, htext, hto, hopening]
  rfl

theorem acknowledged_valid (hvalid : i.validate = .ok ()) (hopen : i.state = .open) :
    (i.acknowledged now).validate = .ok () := by
  have hsame : (i.acknowledged now).validate = i.validate := by
    unfold AttentionItem.validate AttentionItem.acknowledged
    dsimp only
    rw [hopen]
    rfl
  rw [hsame, hvalid]

theorem acknowledged_event (h : SharedKept t) (hi : i ∈ t.items.rows) (hopen : i.state = .open) :
    ∃ events, insertAttentionEvent t.events (i.acknowledged now) .acknowledged (some i.version) = .ok events := by
  refine insertEvent_isOk fun e he hsame hkind => ?_
  rw [(h.opens.first i hi hopen).2 e he hsame] at hkind
  cases hkind

theorem acknowledge_body (w : Wire) (now : Int) (h : SharedKept t) (hi : i ∈ t.items.rows) (hopen : i.state = .open) :
    ∃ events, acknowledgeBody w i.attentionId i.version now t =
      recordCorrelationLinkInTransaction t.links (acknowledgementLink w i.attentionId now) >>= fun links =>
        .ok (i.acknowledged now, ⟨t.items.update (fun j => j.attentionId == i.attentionId)
          (fun j => { i.acknowledged now with attentionId := j.attentionId }) (fun _ => rfl), events, links⟩) := by
  have hversion := (h.opens.first i hi hopen).1
  have hvalid := h.items.valid i hi
  obtain ⟨events, hevents⟩ := @acknowledged_event t i now h hi hopen
  have hfits : ∀ field, toI64 i.version field = .ok (i.version : Int) := fun field => if_pos (by rw [hversion]; decide)
  have hlater : ∀ field, toI64 (i.acknowledged now).version field = .ok ((i.acknowledged now).version : Int) :=
    fun field => if_pos (by
      show fitsI64 (i.version + 1) = true
      rw [hversion]
      decide)
  have hread : ∀ why, readAttention t i.attentionId i.version why = .ok i := by
    intro why
    unfold readAttention
    rw [show t.items.get i.attentionId = some i from Table.get_of_mem hi]
    simp only [hfits, okOr, hvalid, ok_bind, beq_self_eq_true, ensure_true, pure_ok]
  have hmove : i.state.validateTransition .acknowledged false = .ok () := by
    rw [hopen]
    rfl
  have hbody : acknowledgeBody w i.attentionId i.version now t =
      writeAttention w (i.acknowledged now) .acknowledged i.version t := by
    unfold acknowledgeBody
    rw [hread, ok_bind, hmove, ok_bind]
    rfl
  refine ⟨events, hbody.trans ?_⟩
  unfold writeAttention
  rw [acknowledged_valid hvalid hopen, ok_bind, hlater, ok_bind, hevents, ok_bind, acknowledged_link hversion, ok_bind]
  rfl

/-- **The acknowledgement of an open item stands or falls with its link.** -/
theorem acknowledge_ok_iff (h : SharedKept t) (hi : i ∈ t.items.rows) (hopen : i.state = .open) :
    (acknowledgeAttention w i.attentionId i.version now t).1.isOk = true ↔
      ∃ links, recordCorrelationLinkInTransaction t.links (acknowledgementLink w i.attentionId now) = .ok links := by
  obtain ⟨events, hbody⟩ := acknowledge_body w now h hi hopen
  unfold acknowledgeAttention transaction
  rw [hbody]
  cases recordCorrelationLinkInTransaction t.links (acknowledgementLink w i.attentionId now) with
  | error e => exact ⟨fun hok => (by cases hok), fun hsome => hsome.elim (fun links hlinks => (by cases hlinks))⟩
  | ok links => exact ⟨fun _ => ⟨links, rfl⟩, fun _ => rfl⟩

theorem acknowledge_rows {links : Links} (h : SharedKept t) (hi : i ∈ t.items.rows) (hopen : i.state = .open)
    (hlinks : recordCorrelationLinkInTransaction t.links (acknowledgementLink w i.attentionId now) = .ok links) :
    (acknowledgeAttention w i.attentionId i.version now t).2.items.rows =
      t.items.rows.map (fun j => if j.attentionId = i.attentionId then i.acknowledged now else j) := by
  obtain ⟨events, hbody⟩ := acknowledge_body w now h hi hopen
  rw [hlinks, ok_bind] at hbody
  unfold acknowledgeAttention transaction
  rw [hbody]
  refine List.map_congr_left fun j hj => ?_
  by_cases hid : j.attentionId = i.attentionId
  · rw [if_pos hid, if_pos (beq_iff_eq.2 hid)]
    show { i.acknowledged now with attentionId := j.attentionId } = i.acknowledged now
    rw [hid]
    rfl
  · rw [if_neg hid, if_neg (by rw [beq_iff_eq]; exact hid)]

end Acknowledged

theorem acknowledgementLink_valid_iff {w : Wire} {id : String} {now : Int}
    (hid : isSafeOperatorControlIdentifier id = true) (hdigests : DigestsApart w id) :
    (acknowledgementLink w id now).validate = .ok () ↔ id.toList.length ≤ 157 := by
  have htrace : (acknowledgementLink w id now).trace.validate = .ok () := by
    obtain ⟨hparent, hdistinct⟩ := hdigests.opening _ rfl
    have hzero : (!(allZero (acknowledgementLink w id now).trace.traceId ||
        allZero (acknowledgementLink w id now).trace.spanId)) = true := by
      rw [show allZero (acknowledgementLink w id now).trace.traceId = false from hdigests.trace,
        show allZero (acknowledgementLink w id now).trace.spanId = false from hdigests.span]
      rfl
    refine bind_unit_ok.2 ⟨validateLowerHex_ok.2 (isLowerHex_take _ (by omega)), bind_unit_ok.2
      ⟨validateLowerHex_ok.2 (isLowerHex_take _ (by omega)), ensure_bind_ok.2 ⟨hzero, bind_unit_ok.2
        ⟨validateLowerHex_ok.2 (isLowerHex_take _ (by omega)), ensure_ok_iff.2 ?_⟩⟩⟩⟩
    have hne : ((w.sha256 ("harness.attention.span.v1:" ++ (id ++ ":opened:v1"))).take 16 ==
        (acknowledgementLink w id now).trace.spanId) = false := beq_false_of_ne hdistinct
    rw [hne, Bool.or_false, hparent]
    rfl
  have htail : ∀ c ∈ ":v2".toList, (c.isAlphanum || ['_', '-', '.', ':'].contains c) = true := by
    have hchars : ":v2".toList = [':', 'v', '2'] := rfl
    rw [hchars, List.forall_mem_cons, List.forall_mem_cons, List.forall_mem_singleton]
    exact ⟨rfl, rfl, rfl⟩
  have hto : isSafeOperatorControlIdentifier (acknowledgementLink w id now).toId = true ↔ id.toList.length + 3 ≤ 160 :=
    safe_append_iff hid htail
  have hkinds : isSafeOperatorControlIdentifier "attention" = true ∧
      isSafeOperatorControlIdentifier "attention_acknowledgement" = true ∧
      isSafeOperatorControlIdentifier "acknowledges_attention" = true := by decide
  unfold CorrelationLink.validate
  rw [htrace]
  simp only [acknowledgementLink, beq_self_eq_true, ensure_true, ok_bind, validateIdentifier_ok.2 hkinds.1,
    validateIdentifier_ok.2 hkinds.2.1, validateIdentifier_ok.2 hkinds.2.2, validateIdentifier_ok.2 hid]
  rw [bind_unit_ok, validateIdentifier_ok]
  refine ⟨fun h => ?_, fun h => ⟨hto.2 (by omega), ?_⟩⟩
  · have hshort := hto.1 h.1
    omega
  · exact ensure_ok_iff.2 (by simp)

/-- **The acknowledgement of an open row stands or falls with its link.** -/
theorem acknowledge_recorded_iff {w : Wire} {calls : List SharedCall} {r : AttentionRow} {now : Int}
    (hr : r ∈ (sharedAfter w calls).items.rows) (hopen : r.state = .open) :
    (performRows w (.acknowledge r.id r.version now) (sharedAfter w calls)).1.isOk = true ↔
      ∃ links, recordCorrelationLinkInTransaction (sharedAfter w calls).links (acknowledgementLink w r.id now) =
        .ok links := by
  have hkept := sharedItems_run w calls
  rw [sharedAfter_eq] at hr ⊢
  generalize sharedItems w calls = t at *
  obtain ⟨i, hi, rfl⟩ := List.mem_map.1 hr
  have himage : (performRows w (.acknowledge i.attentionId i.version now) (storeOf w t)).1 =
      (acknowledgeAttention w i.attentionId i.version now t).1 := congrArg Prod.fst (performRows_image w t _)
  show (performRows w (.acknowledge i.attentionId i.version now) (storeOf w t)).1.isOk = true ↔ _
  rw [himage]
  exact acknowledge_ok_iff hkept hi hopen

theorem shared_safe {w : Wire} {calls : List SharedCall} {r : AttentionRow} (hr : r ∈ (sharedAfter w calls).items.rows) :
    isSafeOperatorControlIdentifier r.id = true := by
  rw [sharedAfter_eq] at hr
  obtain ⟨i, hi, rfl⟩ := List.mem_map.1 hr
  exact (sharedItems_run w calls).safe i hi

theorem shared_sound (w : Wire) (calls : List SharedCall) : Sound (sharedAfter w calls).links := by
  rw [sharedAfter_eq]
  exact (sharedItems_run w calls).sound

/-- **When an open item is acknowledged**: its id is short enough, and nothing in its trace is in the way. -/
theorem acknowledged_iff {w : Wire} {calls : List SharedCall} {r : AttentionRow} {now : Int}
    (hr : r ∈ (sharedAfter w calls).items.rows) (hopen : r.state = .open) (hdigests : DigestsApart w r.id) :
    (performRows w (.acknowledge r.id r.version now) (sharedAfter w calls)).1.isOk = true ↔
      r.id.toList.length ≤ 157 ∧ Unobstructed (sharedAfter w calls).links (acknowledgementLink w r.id now) := by
  rw [acknowledge_recorded_iff hr hopen, record_unobstructed_iff (shared_sound w calls),
    acknowledgementLink_valid_iff (shared_safe hr) hdigests]

/-! ## The opening of an item -/

section Opening
variable {w : Wire} {item : AttentionItem}

/-- **The opening of an item is not in the way of its acknowledgement.** -/
theorem unobstructed_opening {t : Links} {now : Int} (hvalid : (openedLink w item).validate = .ok ())
    (hfree : ∀ r, t.get (acknowledgementLink w item.attentionId now).linkId = some r →
      r = acknowledgementLink w item.attentionId now)
    (hown : ∀ r ∈ othersOf t (acknowledgementLink w item.attentionId now), r = openedLink w item) :
    Unobstructed t (acknowledgementLink w item.attentionId now) := by
  have hlen := length_trace hvalid
  have htrace : (openedLink w item).trace.traceId = (acknowledgementLink w item.attentionId now).trace.traceId := rfl
  have hsource : nodeKind (openedLink w item).source = "source_event" := nodeKind_node hlen
    (show ':' ∉ "source_event".toList by decide)
  have hfrom : nodeKind (acknowledgementLink w item.attentionId now).source = "attention" :=
    nodeKind_node (htrace ▸ hlen) (show ':' ∉ "attention".toList by decide)
  have hto : nodeKind (acknowledgementLink w item.attentionId now).target = "attention_acknowledgement" :=
    nodeKind_node (htrace ▸ hlen) (show ':' ∉ "attention_acknowledgement".toList by decide)
  refine ⟨hfree, ?_, fun r hr hsame => ?_, fun hback => ?_⟩
  · have hids : (othersOf t (acknowledgementLink w item.attentionId now)).map CorrelationLink.linkId =
        List.replicate (othersOf t (acknowledgementLink w item.attentionId now)).length (openedLink w item).linkId := by
      rw [List.eq_replicate_of_mem hown, List.map_replicate, List.length_replicate]
    have hnodup : ((othersOf t (acknowledgementLink w item.attentionId now)).map CorrelationLink.linkId).Nodup :=
      (t.nodup.sublist ((List.filter_sublist.trans List.filter_sublist).map _))
    rw [hids, List.nodup_replicate] at hnodup
    omega
  · have hrelation := congrArg (fun c => c.2.2.2) hsame
    rw [hown r hr] at hrelation
    exact absurd hrelation (show "opens_attention" ≠ "acknowledges_attention" by decide)
  · rcases ReflTransGen.cases_head hback with hends | ⟨n, ⟨r, hr, hstart, -⟩, -⟩
    · rw [hends, hfrom] at hto
      exact absurd hto (by decide)
    · rw [hown r hr] at hstart
      rw [← hstart, hsource] at hto
      exact absurd hto (by decide)

theorem unobstructed_own {t : Links} {now : Int} (hvalid : (openedLink w item).validate = .ok ())
    (hlinks : ∀ l ∈ t.rows, l.linkId ≠ (acknowledgementLink w item.attentionId now).linkId ∧
      (l = openedLink w item ∨ l.trace.traceId ≠ (openedLink w item).trace.traceId)) :
    Unobstructed t (acknowledgementLink w item.attentionId now) := by
  refine unobstructed_opening hvalid (fun l hl => ?_) (fun l hl => ?_)
  · exact absurd (Table.key_of_get hl) (hlinks l (Table.mem_of_get hl)).1
  · obtain ⟨hmem, htrace⟩ := List.mem_filter.1 (List.mem_filter.1 hl).1
    exact (hlinks l hmem).2.resolve_right fun hother => hother (beq_iff_eq.1 htrace)

end Opening

theorem shared_acknowledged {w : Wire} {before after : List SharedCall} {i : AttentionItem} {now : Int}
    (hafter : after = before ++ [.attention (.acknowledge i.attentionId i.version now)])
    (hi : i ∈ (sharedItems w before).items.rows) (hopen : i.state = .open)
    (hlink : (acknowledgementLink w i.attentionId now).validate = .ok () ∧
      Unobstructed (sharedItems w before).links (acknowledgementLink w i.attentionId now)) :
    (sharedItems w after).items.rows =
      (sharedItems w before).items.rows.map (fun j => if j.attentionId = i.attentionId then i.acknowledged now else j) := by
  have hkept := sharedItems_run w before
  obtain ⟨links, hlinks⟩ := (record_unobstructed_iff hkept.sound).2 hlink
  rw [hafter, shared_append]
  exact acknowledge_rows hkept hi hopen hlinks

/-! ## Two items -/

def networkItem : AttentionItem :=
  { infrastructureItem "m" with
    source := ⟨.infrastructure, "t", 1⟩
    title := "Network"
    summary := "Down"
    dedupeKey := "l"
    openedEventId := "p"
    openedAtMs := 9 }

/-- The digests of the two items, opened and acknowledged, and of their links. -/
def acknowledgedWire : Wire :=
  (tableWire
    [("harness.attention.trace.v1:n", .ofNat 0xdb0c18f0a7fd701be90c7e40d65c97f3172dc14e84561de9069e5bb808ee24f3),
      ("harness.attention.span.v1:n:opened:v1",
        .ofNat 0x1474c42e6f8547f69e9a5b12ac5087c7bd98413e6d31778aee6acb5d4dc384df),
      ("harness.attention.link.v1:n:opened:v1",
        .ofNat 0x60a3729aa6976c1b5ed9f871421cf0238c7ad9eba236347c2a5cea5026102e47),
      ("harness.attention.span.v1:n:acknowledged:v2",
        .ofNat 0x03a3ad49e505dd453c854ae03d226c1391de1cdb16095a804dbf6bfa89167090),
      ("harness.attention.link.v1:n:acknowledged:v2",
        .ofNat 0xc4146cdd4f8b30f5887a1ea1b62459511cbee2b3a538fa2b15a670aaf3c74970),
      ("harness.attention.trace.v1:m", .ofNat 0x5b8b8b3dd4c8c19b07900089b79d7ea57484a38bb2204ced3963172ac3fbb154),
      ("harness.attention.span.v1:m:opened:v1",
        .ofNat 0x8745530eee0c2ec81a325f6ccd73a40a6ec218e68af816fa98b31fb117aaf478),
      ("harness.attention.link.v1:m:opened:v1",
        .ofNat 0xec93a776dfc3a08cc449712918e1b7dd203d4eae3384920e0a0002c6035643b1),
      ("harness.attention.span.v1:m:acknowledged:v2",
        .ofNat 0x39c98bbe87c998731952e87e3709deb018923e9cca26841e7da51735657e24e5),
      ("harness.attention.link.v1:m:acknowledged:v2",
        .ofNat 0x3153fc5ff6ae5263157161f22c4e29cab8648956d6b7903246312b78666c2cfb)]
    ["attention_id", "version"]
    [([some (.str "n"), some (ofNat 1)], .ofNat 0xff3f6338d07469a25ed8348ce77fd209fd4ca7d596da4116faa4e156f458d0f0),
      ([some (.str "n"), some (ofNat 2)], .ofNat 0x48a081a9c171d47c3afccd1d946e6b7cea85d8ec674989c3fa0c35fc9492fc91),
      ([some (.str "m"), some (ofNat 1)], .ofNat 0xa3db32cd4d38ecd3251e9f52a8fdb4aac7a225baafbf5ac0a446e903f4e9be5d),
      ([some (.str "m"), some (ofNat 2)], .ofNat 0xe49a4cb0daf3d53de8d09d910f671f3e25e61e1687cbea9f66be091450794713)]).toWire

/-- The digests of the links of an item's opening and of its acknowledgement. -/
structure ItemDigests (w : Wire) (id : String) (trace span link ackSpan ackLink : Nat) : Prop where
  trace : w.sha256 ("harness.attention.trace.v1:" ++ id) = .ofNat trace
  span : w.sha256 ("harness.attention.span.v1:" ++ (id ++ ":opened:v1")) = .ofNat span
  link : w.sha256 ("harness.attention.link.v1:" ++ (id ++ ":opened:v1")) = .ofNat link
  ackSpan : w.sha256 ("harness.attention.span.v1:" ++ (id ++ ":acknowledged:v2")) = .ofNat ackSpan
  ackLink : w.sha256 ("harness.attention.link.v1:" ++ (id ++ ":acknowledged:v2")) = .ofNat ackLink

section Digests
variable {w : Wire} {item : AttentionItem} {trace span link ackSpan ackLink : Nat}

theorem ItemDigests.opened (h : ItemDigests w item.attentionId trace span link ackSpan ackLink) (hversion : item.version = 1) :
    openedLink w item = ⟨"harness.correlation-link.v1", "correlation-" ++ (Digest.ofNat link).take 48,
      ⟨(Digest.ofNat trace).take 32, (Digest.ofNat span).take 16, none⟩, "source_event", item.openedEventId, "attention",
      item.attentionId, "opens_attention", item.openedAtMs⟩ := by
  have htext : attentionText item .opened = item.attentionId ++ ":opened:v1" := by
    unfold attentionText
    rw [hversion, String.append_assoc, String.append_assoc, String.append_assoc]
    rfl
  unfold openedLink
  rw [htext, h.trace, h.span, h.link]

theorem ItemDigests.acknowledged {id : String} (h : ItemDigests w id trace span link ackSpan ackLink) (now : Int) :
    acknowledgementLink w id now = ⟨"harness.correlation-link.v1", "correlation-" ++ (Digest.ofNat ackLink).take 48,
      ⟨(Digest.ofNat trace).take 32, (Digest.ofNat ackSpan).take 16, some ((Digest.ofNat span).take 16)⟩, "attention", id,
      "attention_acknowledgement", id ++ ":v2", "acknowledges_attention", now⟩ := by
  unfold acknowledgementLink
  rw [h.trace, h.span, h.ackSpan, h.ackLink]

theorem ItemDigests.apart {id : String} (h : ItemDigests w id trace span link ackSpan ackLink)
    (hnonzero : allZero ((Digest.ofNat trace).take 32) = false ∧ allZero ((Digest.ofNat ackSpan).take 16) = false ∧
      allZero ((Digest.ofNat span).take 16) = false)
    (hspans : (hexText 64 span []).take 16 ≠ (hexText 64 ackSpan []).take 16) : DigestsApart w id where
  trace := by
    rw [h.acknowledged]
    exact hnonzero.1
  span := by
    rw [h.acknowledged]
    exact hnonzero.2.1
  opening := by
    intro parent hparent
    rw [h.acknowledged] at hparent ⊢
    rw [← Option.some.inj hparent]
    exact ⟨hnonzero.2.2, take_ofNat_ne hspans⟩

theorem linkId_ne {m n : Nat} (h : (hexText 64 m []).take 48 ≠ (hexText 64 n []).take 48) :
    "correlation-" ++ (Digest.ofNat m).take 48 ≠ "correlation-" ++ (Digest.ofNat n).take 48 :=
  fun heq => take_ofNat_ne h ((String.append_right_inj _).1 heq)

end Digests

theorem infrastructure_digests : ItemDigests acknowledgedWire (infrastructureItem "n").attentionId
    0xdb0c18f0a7fd701be90c7e40d65c97f3172dc14e84561de9069e5bb808ee24f3
    0x1474c42e6f8547f69e9a5b12ac5087c7bd98413e6d31778aee6acb5d4dc384df
    0x60a3729aa6976c1b5ed9f871421cf0238c7ad9eba236347c2a5cea5026102e47
    0x03a3ad49e505dd453c854ae03d226c1391de1cdb16095a804dbf6bfa89167090
    0xc4146cdd4f8b30f5887a1ea1b62459511cbee2b3a538fa2b15a670aaf3c74970 := ⟨rfl, rfl, rfl, rfl, rfl⟩

theorem network_digests : ItemDigests acknowledgedWire networkItem.attentionId
    0x5b8b8b3dd4c8c19b07900089b79d7ea57484a38bb2204ced3963172ac3fbb154
    0x8745530eee0c2ec81a325f6ccd73a40a6ec218e68af816fa98b31fb117aaf478
    0xec93a776dfc3a08cc449712918e1b7dd203d4eae3384920e0a0002c6035643b1
    0x39c98bbe87c998731952e87e3709deb018923e9cca26841e7da51735657e24e5
    0x3153fc5ff6ae5263157161f22c4e29cab8648956d6b7903246312b78666c2cfb := ⟨rfl, rfl, rfl, rfl, rfl⟩

theorem fresh_infrastructure : FreshItem acknowledgedWire ⟨∅, ∅, ∅⟩ (infrastructureItem "n") := by
  refine freshItem_empty (infrastructureItem_valid "n") rfl rfl ⟨by decide, infrastructureItem_safe⟩ ?_
  rw [infrastructure_digests.opened rfl, allZero_ofNat, allZero_ofNat]
  decide

theorem infrastructure_rows :
    (sharedItems acknowledgedWire [.attention (.upsert (infrastructureItem "n"))]).items.rows = [infrastructureItem "n"] ∧
      (sharedItems acknowledgedWire [.attention (.upsert (infrastructureItem "n"))]).links.rows =
        [openedLink acknowledgedWire (infrastructureItem "n")] :=
  @shared_fresh acknowledgedWire [] _ (infrastructureItem "n") rfl fresh_infrastructure

theorem fresh_network :
    FreshItem acknowledgedWire (sharedItems acknowledgedWire [.attention (.upsert (infrastructureItem "n"))]) networkItem := by
  obtain ⟨hitems, hlinks⟩ := infrastructure_rows
  refine ⟨by decide, rfl, rfl, by decide, ?_, fun i hi => ?_, fun e he hsame => ?_, fun l hl => ?_⟩
  · rw [network_digests.opened rfl, allZero_ofNat, allZero_ofNat]
    decide
  · rw [hitems, List.mem_singleton] at hi
    rw [hi]
    decide
  · obtain ⟨i, hi, -, hsource⟩ := (sharedItems_run acknowledgedWire _).opens.owned e he
    rw [hitems, List.mem_singleton] at hi
    rw [← hsource, hi] at hsame
    exact absurd hsame (by decide)
  · rw [hlinks, List.mem_singleton] at hl
    rw [hl, infrastructure_digests.opened rfl, network_digests.opened rfl]
    exact ⟨take_ofNat_ne (by decide), linkId_ne (by decide)⟩

def openedPair : List SharedCall := [.attention (.upsert (infrastructureItem "n")), .attention (.upsert networkItem)]

theorem openedPair_rows : (sharedItems acknowledgedWire openedPair).items.rows = [infrastructureItem "n", networkItem] ∧
    (sharedItems acknowledgedWire openedPair).links.rows =
      [openedLink acknowledgedWire (infrastructureItem "n"), openedLink acknowledgedWire networkItem] := by
  obtain ⟨hitems, hlinks⟩ := @shared_fresh acknowledgedWire _ openedPair networkItem rfl fresh_network
  rw [hitems, hlinks, infrastructure_rows.1, infrastructure_rows.2]
  exact ⟨rfl, rfl⟩

theorem network_apart : DigestsApart acknowledgedWire networkItem.attentionId := by
  refine network_digests.apart ?_ (by decide)
  rw [allZero_ofNat, allZero_ofNat, allZero_ofNat]
  decide

theorem network_unobstructed : Unobstructed (sharedItems acknowledgedWire openedPair).links
    (acknowledgementLink acknowledgedWire networkItem.attentionId 12) := by
  refine unobstructed_own (openedLink_valid fresh_network) fun l hl => ?_
  rw [openedPair_rows.2, List.mem_cons, List.mem_singleton] at hl
  rw [network_digests.acknowledged]
  rcases hl with rfl | rfl
  · rw [infrastructure_digests.opened rfl, network_digests.opened rfl]
    exact ⟨linkId_ne (by decide), Or.inr (take_ofNat_ne (by decide))⟩
  · refine ⟨?_, Or.inl rfl⟩
    rw [network_digests.opened rfl]
    exact linkId_ne (by decide)

theorem network_acknowledged_rows :
    (sharedItems acknowledgedWire (openedPair ++ [.attention (.acknowledge "m" 1 12)])).items.rows =
      [infrastructureItem "n", networkItem.acknowledged 12] := by
  have hmem : networkItem ∈ (sharedItems acknowledgedWire openedPair).items.rows := by
    rw [openedPair_rows.1]
    exact List.mem_cons_of_mem _ List.mem_cons_self
  have hvalid : (acknowledgementLink acknowledgedWire networkItem.attentionId 12).validate = .ok () :=
    (acknowledgementLink_valid_iff (by decide) network_apart).2 (by decide)
  have hrows := @shared_acknowledged acknowledgedWire openedPair
    (openedPair ++ [.attention (.acknowledge "m" 1 12)]) networkItem 12 rfl hmem rfl ⟨hvalid, network_unobstructed⟩
  rw [hrows, openedPair_rows.1]
  rfl

/-- The second of two items is acknowledged. -/
theorem acknowledged_short : (performRows acknowledgedWire (.acknowledge "m" 1 12)
    (sharedAfter acknowledgedWire openedPair)).1.isOk = true := by
  have hrow : rowOf acknowledgedWire networkItem ∈ (sharedAfter acknowledgedWire openedPair).items.rows := by
    rw [(sharedAfter_rows acknowledgedWire openedPair).1, openedPair_rows.1]
    exact List.mem_cons_of_mem _ List.mem_cons_self
  refine (@acknowledged_iff _ _ _ 12 hrow rfl network_apart).2 ⟨by decide, ?_⟩
  rw [(sharedAfter_rows acknowledgedWire openedPair).2]
  exact network_unobstructed

/-! ## An item that cannot be acknowledged -/

def lengthyWire : Wire where
  sha256 := fun text =>
    if text = "harness.attention.span.v1:" ++ (longAttention ++ ":acknowledged:v2") then
      .ofNat 0x0019a4d729f21b937400dc8c12b1a92c1452cb2ff7c97d55ca18faa3a65f807d
    else if text = "harness.attention.link.v1:" ++ (longAttention ++ ":acknowledged:v2") then
      .ofNat 0xb4e90ef7014ff3dc7cd51387f18f05dc21b62585e3cbb8a06ee690ea584be205
    else longWire.sha256 text
  digestJson := longWire.digestJson
  byteLength := longWire.byteLength

section Lengthy
set_option maxRecDepth 4000

/-- **An open item that is never acknowledged**: its id has a hundred and sixty characters. -/
theorem lengthy_open_forever : ¬ ∀ (w : Wire) (calls : List SharedCall) (r : AttentionRow) (now : Int),
    r ∈ (sharedAfter w calls).items.rows → r.state = .open → DigestsApart w r.id →
    (∀ l, (sharedAfter w calls).links.get (acknowledgementLink w r.id now).linkId = some l →
      l = acknowledgementLink w r.id now) →
    (performRows w (.acknowledge r.id r.version now) (sharedAfter w calls)).1.isOk = true := by
  intro hall
  have hfresh : FreshItem lengthyWire ⟨∅, ∅, ∅⟩ (infrastructureItem longAttention) :=
    freshItem_empty (infrastructureItem_valid longAttention) rfl rfl ⟨by decide, longAttention_safe⟩ (by decide)
  obtain ⟨hitems, hlinks⟩ := @shared_fresh lengthyWire []
    [.attention (.upsert (infrastructureItem longAttention))] (infrastructureItem longAttention) rfl hfresh
  have hrow : rowOf lengthyWire (infrastructureItem longAttention) ∈
      (sharedAfter lengthyWire [.attention (.upsert (infrastructureItem longAttention))]).items.rows := by
    rw [(sharedAfter_rows _ _).1, hitems]
    exact List.mem_cons_self
  have hfree : ∀ l, (sharedAfter lengthyWire [.attention (.upsert (infrastructureItem longAttention))]).links.get
      (acknowledgementLink lengthyWire longAttention 7).linkId = some l → l = acknowledgementLink lengthyWire longAttention 7 := by
    intro l hl
    have hmem := Table.mem_of_get hl
    have hid : l.linkId = (acknowledgementLink lengthyWire longAttention 7).linkId := Table.key_of_get hl
    have hother : (openedLink lengthyWire (infrastructureItem longAttention)).linkId ≠
        (acknowledgementLink lengthyWire longAttention 7).linkId := by decide
    rw [(sharedAfter_rows _ _).2, hlinks, List.mem_append, List.mem_singleton] at hmem
    rcases hmem with hmem | hmem
    · cases hmem
    · rw [hmem] at hid
      exact absurd hid hother
  have hdigests : DigestsApart lengthyWire longAttention := ⟨by decide, by decide, fun parent hparent => by
    cases hparent
    decide⟩
  have hok := hall lengthyWire _ _ 7 hrow rfl hdigests hfree
  obtain ⟨links, hrecord⟩ := (acknowledge_recorded_iff hrow rfl).1 hok
  have hshort := (acknowledgementLink_valid_iff (shared_safe hrow) hdigests).1 (bind_unit_ok.1 hrecord).1
  have hlength := congrArg List.length longAttention_text
  rw [List.length_replicate] at hlength
  exact absurd hshort (by
    show ¬ longAttention.toList.length ≤ 157
    omega)

end Lengthy

end Control
end Bildr
