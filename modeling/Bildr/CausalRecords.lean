import Bildr.CorrelationGraph
import Bildr.Texts
/-!
# CausalRecords — acyclic links that are refused

The check of causal links takes a record for the text `trace:kind:id`.  Kinds and ids may hold colons, so two records can
have one text, and a check of the texts may find a repetition or a cycle that the records do not have.  What it decides is
whether the texts form an acyclic graph (`validateCausalLinks_text`); it decides whether the records do when the texts add
nothing (`validateCausalLinks_exact_iff`), as where no kind holds a colon (`validateCausalLinks_plain_iff`).
-/
namespace Bildr
namespace Control

open Relation (TransGen)

structure SourceRecord where
  traceId : String
  kind : String
  id : String
deriving DecidableEq, Repr

def CorrelationLink.fromRecord (l : CorrelationLink) : SourceRecord := ⟨l.trace.traceId, l.fromKind, l.fromId⟩

def CorrelationLink.toRecord (l : CorrelationLink) : SourceRecord := ⟨l.trace.traceId, l.toKind, l.toId⟩

def SourceRecord.text (r : SourceRecord) : String := node r.traceId r.kind r.id

section Named
variable {α β : Type}

def CorrelationLink.saying (name : SourceRecord → α) (l : CorrelationLink) : String × α × α × String :=
  (l.trace.traceId, name l.fromRecord, name l.toRecord, l.relation)

def Connects (name : SourceRecord → α) (links : List CorrelationLink) (a b : α) : Prop :=
  ∃ l ∈ links, name l.fromRecord = a ∧ name l.toRecord = b

/-- No two links say the same and no record leads to itself, where records with one name are one. -/
structure CausalDag (name : SourceRecord → α) (links : List CorrelationLink) : Prop where
  distinct : (links.map (CorrelationLink.saying name)).Nodup
  acyclic : ∀ a, ¬ TransGen (Connects name links) a a

theorem CausalDag.of_coarser {name : SourceRecord → α} (f : α → β) {links : List CorrelationLink}
    (h : CausalDag (fun r => f (name r)) links) : CausalDag name links := by
  constructor
  · have hmap : links.map (CorrelationLink.saying (fun r => f (name r))) =
        (links.map (CorrelationLink.saying name)).map (fun s => (s.1, f s.2.1, f s.2.2.1, s.2.2.2)) := by
      rw [List.map_map]
      rfl
    have hdistinct := h.distinct
    rw [hmap] at hdistinct
    exact List.Nodup.of_map _ hdistinct
  · intro a hcycle
    refine h.acyclic (f a) (hcycle.lift f ?_)
    rintro a b ⟨l, hl, rfl, rfl⟩
    exact ⟨l, hl, rfl, rfl⟩

theorem CausalDag.of_injOn {name : SourceRecord → α} {links : List CorrelationLink} (h : CausalDag id links)
    (hinj : ∀ l ∈ links, ∀ m ∈ links, ∀ r ∈ [l.fromRecord, l.toRecord], ∀ s ∈ [m.fromRecord, m.toRecord],
      name r = name s → r = s) : CausalDag name links := by
  constructor
  · refine List.Nodup.map_on ?_ (List.Nodup.of_map _ h.distinct)
    intro l hl m hm hsame
    simp only [CorrelationLink.saying, Prod.mk.injEq] at hsame
    obtain ⟨htrace, hfrom, hto, hrelation⟩ := hsame
    refine List.inj_on_of_nodup_map h.distinct hl hm ?_
    rw [CorrelationLink.saying, CorrelationLink.saying, htrace, hrelation,
      hinj l hl m hm _ (by simp) _ (by simp) hfrom, hinj l hl m hm _ (by simp) _ (by simp) hto]
  · -- along the texts the records of the links follow one another
    have hpath : ∀ {a b : α}, TransGen (Connects name links) a b → ∃ l ∈ links, ∃ m ∈ links,
        name l.fromRecord = a ∧ name m.toRecord = b ∧ TransGen (Connects id links) l.fromRecord m.toRecord := by
      intro a b hab
      induction hab with
      | single hstep =>
        obtain ⟨l, hl, rfl, rfl⟩ := hstep
        exact ⟨l, hl, l, hl, rfl, rfl, TransGen.single ⟨l, hl, rfl, rfl⟩⟩
      | tail _ hstep ih =>
        obtain ⟨l, hl, m, hm, hfrom, hto, hway⟩ := ih
        obtain ⟨k, hk, hmk, rfl⟩ := hstep
        have hrec : k.fromRecord = m.toRecord := hinj k hk m hm _ (by simp) _ (by simp) (hmk.trans hto.symm)
        exact ⟨l, hl, k, hk, hfrom, rfl, hway.tail ⟨k, hk, hrec, rfl⟩⟩
    intro a hcycle
    obtain ⟨l, hl, m, hm, hfrom, hto, hway⟩ := hpath hcycle
    have hrec : l.fromRecord = m.toRecord := hinj l hl m hm _ (by simp) _ (by simp) (hfrom.trans hto.symm)
    rw [← hrec] at hway
    exact h.acyclic _ hway

end Named

/-! ## What the check decides -/

/-- **Valid links pass exactly when their texts form an acyclic graph.** -/
theorem validateCausalLinks_text {links : List CorrelationLink} (hlen : links.length ≤ 8192)
    (hvalid : ∀ l ∈ links, l.validate = .ok ()) :
    validateCausalLinks links = .ok () ↔ CausalDag SourceRecord.text links := by
  rw [validateCausalLinks_iff]
  exact ⟨fun h => ⟨h.2.2.1, h.2.2.2⟩, fun h => ⟨hlen, hvalid, h.distinct, h.acyclic⟩⟩

theorem CausalDag.of_text {links : List CorrelationLink} (h : CausalDag SourceRecord.text links) : CausalDag id links :=
  CausalDag.of_coarser SourceRecord.text h

theorem colon_not_mem_hex {value : String} {n : Nat} (h : Improvement.isLowerHex value n = true) : ':' ∉ value.toList := by
  intro hcolon
  simp only [Improvement.isLowerHex, Bool.and_eq_true, decide_eq_true_eq, List.all_eq_true] at h
  exact absurd (h.2 ':' hcolon) (by decide)

theorem text_inj {r s : SourceRecord} (hr : ':' ∉ r.traceId.toList ∧ ':' ∉ r.kind.toList)
    (hs : ':' ∉ s.traceId.toList ∧ ':' ∉ s.kind.toList) (h : r.text = s.text) : r = s := by
  have hlist : ∀ q : SourceRecord, q.text.toList =
      q.traceId.toList ++ ':' :: (q.kind.toList ++ ':' :: q.id.toList) := by
    intro q
    simp [SourceRecord.text, node, String.toList_append]
  have htexts := congrArg String.toList h
  rw [hlist, hlist] at htexts
  obtain ⟨htrace, hrest⟩ := Texts.separator_inj hr.1 hs.1 htexts
  obtain ⟨hkind, hid⟩ := Texts.separator_inj hr.2 hs.2 hrest
  cases r
  cases s
  congr 1
  · exact String.toList_inj.1 htrace
  · exact String.toList_inj.1 hkind
  · exact String.toList_inj.1 hid

theorem trace_plain {l : CorrelationLink} (h : l.validate = .ok ()) : ':' ∉ l.trace.traceId.toList := by
  unfold CorrelationLink.validate TraceContext.validate at h
  obtain ⟨_, -, h⟩ := bind_ok h
  obtain ⟨_, htrace, -⟩ := bind_ok h
  obtain ⟨_, hhex, -⟩ := bind_ok htrace
  exact colon_not_mem_hex (validateLowerHex_ok.1 hhex)

/-- **Without colons in the kinds, the texts tell the records apart.** -/
theorem CausalDag.text_of_plain {links : List CorrelationLink} (hvalid : ∀ l ∈ links, l.validate = .ok ())
    (hplain : ∀ l ∈ links, ':' ∉ l.fromKind.toList ∧ ':' ∉ l.toKind.toList) (h : CausalDag id links) :
    CausalDag SourceRecord.text links := by
  refine h.of_injOn (fun l hl m hm r hr s hs hsame => ?_)
  have hparts : ∀ k ∈ links, ∀ q ∈ [k.fromRecord, k.toRecord], ':' ∉ q.traceId.toList ∧ ':' ∉ q.kind.toList := by
    intro k hk q hq
    have htrace := trace_plain (hvalid k hk)
    rcases List.mem_pair.1 hq with rfl | rfl
    · exact ⟨htrace, (hplain k hk).1⟩
    · exact ⟨htrace, (hplain k hk).2⟩
  exact text_inj (hparts l hl r hr) (hparts m hm s hs) hsame

/-- **The check is exact where texts that coincide make no repetition and no cycle of their own.** -/
theorem validateCausalLinks_exact_iff {links : List CorrelationLink} (hlen : links.length ≤ 8192)
    (hvalid : ∀ l ∈ links, l.validate = .ok ()) :
    (validateCausalLinks links = .ok () ↔ CausalDag id links) ↔
      (CausalDag id links → CausalDag SourceRecord.text links) := by
  rw [validateCausalLinks_text hlen hvalid]
  exact ⟨fun h => h.2, fun h => ⟨CausalDag.of_text, h⟩⟩

def sampleLink (fromKind fromId toKind toId : String) : CorrelationLink :=
  ⟨"harness.correlation-link.v1", "link-1", ⟨"0af7651916cd43dd8448eb211c80319c", "b7ad6b7169203331", none⟩, fromKind, fromId,
    toKind, toId, "derived_from", 1⟩

/-- An event, the item made of it and the receipt of the item. -/
def sampleChain : List CorrelationLink :=
  [sampleLink "event" "a" "item" "b", { sampleLink "item" "b" "receipt" "c" with linkId := "link-2" }]

theorem sampleChain_valid : ∀ l ∈ sampleChain, l.validate = .ok () := by decide

theorem validateCausalLinks_exact_item :
    (validateCausalLinks sampleChain = .ok () ↔ CausalDag id sampleChain) ↔
      (CausalDag id sampleChain → CausalDag SourceRecord.text sampleChain) :=
  validateCausalLinks_exact_iff (by decide) sampleChain_valid

/-- **Where no kind holds a colon the check decides whether the records form an acyclic graph.** -/
theorem validateCausalLinks_plain_iff {links : List CorrelationLink} (hlen : links.length ≤ 8192)
    (hvalid : ∀ l ∈ links, l.validate = .ok ()) (hplain : ∀ l ∈ links, ':' ∉ l.fromKind.toList ∧ ':' ∉ l.toKind.toList) :
    validateCausalLinks links = .ok () ↔ CausalDag id links := by
  rw [validateCausalLinks_text hlen hvalid]
  exact ⟨CausalDag.of_text, CausalDag.text_of_plain hvalid hplain⟩

theorem validateCausalLinks_plain_item : validateCausalLinks sampleChain = .ok () ↔ CausalDag id sampleChain :=
  validateCausalLinks_plain_iff (by decide) sampleChain_valid (by decide)

theorem causalDag_link {l : CorrelationLink} (h : l.fromRecord ≠ l.toRecord) : CausalDag id [l] := by
  refine ⟨List.nodup_singleton _, fun a hcycle => ?_⟩
  obtain ⟨b, ⟨m, hm, hfrom, -⟩, -⟩ := TransGen.head'_iff.1 hcycle
  obtain ⟨c, -, ⟨k, hk, -, hto⟩⟩ := TransGen.tail'_iff.1 hcycle
  obtain rfl := List.mem_singleton.1 hm
  obtain rfl := List.mem_singleton.1 hk
  exact h (hfrom.trans hto.symm)

/-- **One link between the records `a`, `b:c` and `a:b`, `c` is refused as a cycle.** -/
theorem acyclic_link_refused :
    ∃ links : List CorrelationLink, links.length ≤ 8192 ∧ (∀ l ∈ links, l.validate = .ok ()) ∧
      ¬ (validateCausalLinks links = .ok () ↔ CausalDag id links) := by
  refine ⟨[sampleLink "a" "b:c" "a:b" "c"], by decide, by decide, fun h => ?_⟩
  have hok := h.2 (causalDag_link (by decide))
  exact absurd hok (by decide)

end Control
end Bildr
