import Bildr.Correlation
import Bildr.Trace
/-!
# CorrelationGraph — the stored links of a trace are an acyclic graph

Whether a list of links passes depends only on which links it has (`validateCausalLinks_iff`, `validateCausalLinks_perm`),
so a page of all links of a trace speaks for the trace: every link that is stored was checked together with all others
of its trace.
-/
namespace Bildr
namespace Control

open Improvement (isLowerHex)
open Relation (TransGen)
open Trace (run run_append)

/-! ## What a list that passes satisfies -/

theorem admitLinks_ok : ∀ {met : List (String × String × String × String)} {links : List CorrelationLink},
    admitLinks met links = .ok () ↔
      (∀ l ∈ links, l.validate = .ok ()) ∧ (links.map CorrelationLink.causality).Nodup ∧
        ∀ l ∈ links, l.causality ∉ met
  | _, [] => by simp [admitLinks]
  | met, l :: links => by
    unfold admitLinks
    rw [bind_unit_ok, bind_unit_ok, ensure_ok_iff, admitLinks_ok]
    simp only [List.mem_cons, List.map_cons, List.nodup_cons, Bool.not_eq_true', List.contains_eq_mem,
      decide_eq_false_iff_not, forall_eq_or_imp, not_or, List.mem_map, not_exists, not_and]
    constructor
    · rintro ⟨hl, hm, hv, hn, hout⟩
      exact ⟨⟨hl, hv⟩, ⟨fun r hr => (hout r hr).1, hn⟩, hm, fun r hr => (hout r hr).2⟩
    · rintro ⟨⟨hl, hv⟩, ⟨hnew, hn⟩, hm, hout⟩
      exact ⟨hl, hm, hv, hn, fun r hr => ⟨hnew r hr, hout r hr⟩⟩

theorem mem_adjacent {links : List CorrelationLink} {a b : String} :
    b ∈ adjacent links a ↔ ∃ l ∈ links, l.source = a ∧ l.target = b := by
  simp [adjacent, and_assoc]

theorem mem_nodes {links : List CorrelationLink} {n : String} :
    n ∈ nodes links ↔ ∃ l ∈ links, l.source = n ∨ l.target = n := by
  simp only [nodes, SortedSet.mem_ofList, List.mem_append, List.mem_map]
  constructor
  · rintro (⟨l, hl, h⟩ | ⟨l, hl, h⟩)
    · exact ⟨l, hl, Or.inl h⟩
    · exact ⟨l, hl, Or.inr h⟩
  · rintro ⟨l, hl, h | h⟩
    · exact Or.inl ⟨l, hl, h⟩
    · exact Or.inr ⟨l, hl, h⟩

def Leads (links : List CorrelationLink) (a b : String) : Prop := ∃ l ∈ links, l.source = a ∧ l.target = b

theorem walk_cases (links : List CorrelationLink) :
    (∃ m, walk links = .ok m) ∨ ∃ n, walk links = .error (.cycle n) ∧ TransGen (Leads links) n n := by
  have hnodes : ∀ x, adjacent links x ≠ [] → x ∈ nodes links := by
    intro x hx
    obtain ⟨b, hb⟩ := List.exists_mem_of_ne_nil _ hx
    obtain ⟨l, hl, hs, -⟩ := mem_adjacent.1 hb
    exact mem_nodes.2 ⟨l, hl, Or.inl hs⟩
  have heq : (fun a b => b ∈ adjacent links a) = Leads links := by
    funext a b
    exact propext mem_adjacent
  rcases Dfs.visitAll_cases hnodes (Nat.lt_succ_self _) (nodes links) with h | ⟨n, h, hc⟩
  · exact Or.inl h
  · rw [heq] at hc
    exact Or.inr ⟨n, h, hc⟩

theorem walk_ok {links : List CorrelationLink} {m : Dfs.Marks String} (h : walk links = .ok m) (n : String) :
    ¬ TransGen (Leads links) n n := by
  intro hc
  obtain ⟨b, ⟨l, hl, hs, ht⟩, -⟩ := TransGen.head'_iff.1 hc
  have hacc := Dfs.visitAll_acc h (mem_nodes.2 ⟨l, hl, Or.inl hs⟩)
  refine Dfs.not_cycle_of_acc hacc ?_
  have hdown : TransGen (fun a b => b ∈ adjacent links a) n n := hc.lift id (fun a b hab => mem_adjacent.2 hab)
  exact hdown.swap

/-- **What a list of links that passes is**: bounded, valid, without repetition and without a cycle. -/
theorem validateCausalLinks_iff {links : List CorrelationLink} :
    validateCausalLinks links = .ok () ↔
      links.length ≤ 8192 ∧ (∀ l ∈ links, l.validate = .ok ()) ∧ (links.map CorrelationLink.causality).Nodup ∧
        ∀ n, ¬ TransGen (Leads links) n n := by
  unfold validateCausalLinks
  rw [bind_unit_ok, bind_unit_ok, ensure_ok_iff, decide_eq_true_eq, admitLinks_ok]
  rcases walk_cases links with ⟨m, hm⟩ | ⟨n, hn, hc⟩
  · simp only [hm, List.not_mem_nil, not_false_eq_true, implies_true, and_true]
    exact ⟨fun h => ⟨h.1, h.2.1, h.2.2, walk_ok hm⟩, fun h => ⟨h.1, h.2.1, h.2.2.1⟩⟩
  · simp only [hn, reduceCtorEq, and_false, false_iff]
    exact fun h => h.2.2.2 n hc

theorem validateCausalLinks_perm {links links' : List CorrelationLink} (hp : links.Perm links') :
    validateCausalLinks links = .ok () ↔ validateCausalLinks links' = .ok () := by
  have hleads : Leads links = Leads links' := by
    funext a b
    exact propext (exists_congr (fun l => and_congr_left (fun _ => hp.mem_iff)))
  rw [validateCausalLinks_iff, validateCausalLinks_iff, hp.length_eq, (hp.map _).nodup_iff, hleads]
  simp only [hp.mem_iff]

/-! ## What the table keeps -/

def Sound (t : Links) : Prop := ∀ trace, validateCausalLinks (linksOf t trace) = .ok ()

theorem sound_empty : Sound (∅ : Links) := fun _ => rfl

theorem linkPage_perm {t : Links} (h : Sound t) (trace : String) : (linkPage t trace 8192).Perm (linksOf t trace) := by
  unfold linkPage
  rw [List.take_of_length_le]
  · exact List.perm_insertionSort _ _
  · rw [List.length_insertionSort]
    exact (validateCausalLinks_iff.1 (h trace)).1

theorem readLinks_page {t : Links} (h : Sound t) (trace : String) : readLinks (linkPage t trace 8192) = .ok () := by
  unfold readLinks
  rw [ensure_ok_iff, List.all_eq_true]
  intro l hl
  rw [(validateCausalLinks_iff.1 (h trace)).2.1 l ((linkPage_perm h trace).subset hl)]
  rfl

/-- **What recording a link does**: nothing if the same link is there; otherwise it is new, passes with all other links
of its trace and stands at the end. -/
theorem record_cases {t t' : Links} {l : CorrelationLink} (h : recordCorrelationLinkInTransaction t l = .ok t') :
    (t.get l.linkId = some l ∧ t' = t) ∨
    (t.get l.linkId = none ∧ validateCausalLinks (linkPage t l.trace.traceId 8192 ++ [l]) = .ok () ∧
      t'.rows = t.rows ++ [l]) := by
  unfold recordCorrelationLinkInTransaction at h
  obtain ⟨_, -, h⟩ := bind_ok h
  cases hg : t.get l.linkId with
  | some existing =>
    simp only [hg] at h
    obtain ⟨he, h⟩ := bind_unit_ok.1 h
    obtain rfl : existing = l := by simpa using ensure_ok he
    obtain rfl : t = t' := by simpa using h
    exact Or.inl ⟨rfl, rfl⟩
  | none =>
    simp only [hg] at h
    obtain ⟨_, -, h⟩ := bind_ok h
    obtain ⟨_, hv, h⟩ := bind_ok h
    obtain ⟨_, -, h⟩ := bind_ok h
    exact Or.inr ⟨rfl, hv, (insertRow_ok_iff.1 h).2⟩

theorem linksOf_append {t t' : Links} {l : CorrelationLink} (h : t'.rows = t.rows ++ [l]) (trace : String) :
    linksOf t' trace = if l.trace.traceId = trace then linksOf t trace ++ [l] else linksOf t trace := by
  unfold linksOf
  rw [h, List.filter_append]
  by_cases hl : l.trace.traceId = trace
  · rw [if_pos hl, List.filter_cons_of_pos (by simpa using hl), List.filter_nil]
  · rw [if_neg hl, List.filter_cons_of_neg (by simpa using hl), List.filter_nil, List.append_nil]

theorem record_sound {t t' : Links} {l : CorrelationLink} (hs : Sound t)
    (h : recordCorrelationLinkInTransaction t l = .ok t') : Sound t' ∧ t.rows <+: t'.rows := by
  rcases record_cases h with ⟨-, rfl⟩ | ⟨-, hv, hrows⟩
  · exact ⟨hs, List.prefix_rfl⟩
  · refine ⟨fun trace => ?_, ⟨[l], hrows.symm⟩⟩
    rw [linksOf_append hrows]
    split
    · rename_i htrace
      subst htrace
      exact (validateCausalLinks_perm ((linkPage_perm hs _).append_right [l])).1 hv
    · exact hs trace

theorem sound_valid {t : Links} (hs : Sound t) {l : CorrelationLink} (hl : l ∈ t.rows) : l.validate = .ok () :=
  (validateCausalLinks_iff.1 (hs l.trace.traceId)).2.1 l (List.mem_filter.2 ⟨hl, by simp⟩)

/-! ## Runs -/

/-- A transaction that records links on the way; it commits or is rolled back as a whole. -/
structure Batch where
  links : List CorrelationLink
  commits : Bool

def transact (t : Links) (b : Batch) : Links :=
  match b.links.foldlM recordCorrelationLinkInTransaction t with
  | .ok t'   => if b.commits then t' else t
  | .error _ => t

theorem transact_sound {t : Links} (b : Batch) (hs : Sound t) : Sound (transact t b) ∧ t.rows <+: (transact t b).rows := by
  unfold transact
  cases h : b.links.foldlM recordCorrelationLinkInTransaction t with
  | error e => exact ⟨hs, List.prefix_rfl⟩
  | ok t' =>
    have hkeep : Sound t' ∧ t.rows <+: t'.rows := by
      refine Trace.foldlM_invariant (fun u => Sound u ∧ t.rows <+: u.rows) ?_ ⟨hs, List.prefix_rfl⟩ h
      intro l _ u u' hu hl
      obtain ⟨hsound, hmore⟩ := record_sound hu.1 hl
      exact ⟨hsound, hu.2.trans hmore⟩
    simp only
    split
    · exact hkeep
    · exact ⟨hs, List.prefix_rfl⟩

theorem run_sound : ∀ (bs : List Batch) {t : Links}, Sound t → Sound (run transact t bs) ∧ t.rows <+: (run transact t bs).rows
  | [], _, hs => ⟨hs, List.prefix_rfl⟩
  | b :: bs, t, hs => by
    obtain ⟨h1, hp1⟩ := transact_sound b hs
    obtain ⟨h2, hp2⟩ := run_sound bs h1
    exact ⟨h2, hp1.trans hp2⟩

theorem recordCorrelationLink_eq (l : CorrelationLink) (t : Links) :
    (recordCorrelationLink l t).2 = transact t ⟨[l], true⟩ := by
  have hfold : [l].foldlM recordCorrelationLinkInTransaction t = recordCorrelationLinkInTransaction t l := by
    rw [List.foldlM_cons]
    cases recordCorrelationLinkInTransaction t l with
    | error e => rfl
    | ok t' => rfl
  unfold recordCorrelationLink transact
  simp only [hfold, if_true]
  cases hv : l.validate with
  | error e =>
    have : recordCorrelationLinkInTransaction t l = .error e := by
      unfold recordCorrelationLinkInTransaction
      rw [hv]
      rfl
    rw [this]
  | ok u =>
    simp only [transaction]
    cases recordCorrelationLinkInTransaction t l with
    | error e => rfl
    | ok t' => rfl

def Causes (t : Links) (trace : String) (a b : String × String) : Prop :=
  ∃ l ∈ t.rows, l.trace.traceId = trace ∧ (l.fromKind, l.fromId) = a ∧ (l.toKind, l.toId) = b

theorem acyclic_of_sound {t : Links} (hs : Sound t) (trace : String) (a : String × String) :
    ¬ TransGen (Causes t trace) a a := by
  intro hc
  refine (validateCausalLinks_iff.1 (hs trace)).2.2.2 (node trace a.1 a.2) (hc.lift (fun p => node trace p.1 p.2) ?_)
  rintro a b ⟨l, hl, rfl, rfl, rfl⟩
  exact ⟨l, List.mem_filter.2 ⟨hl, by simp⟩, rfl, rfl⟩

theorem record_again {t : Links} (hs : Sound t) {l : CorrelationLink} (hl : l ∈ t.rows) :
    recordCorrelationLinkInTransaction t l = .ok t := by
  unfold recordCorrelationLinkInTransaction
  rw [sound_valid hs hl, ok_bind, Table.get_of_mem hl]
  simp

/-- **The causal graph of the store.**  After any transactions, every trace is an acyclic graph of at most 8192 links,
links stay as they are, a link recorded again changes nothing, and the largest page is the whole trace and passes. -/
theorem causal_graph (before later : List Batch) (trace : String) :
    (∀ record, ¬ TransGen (Causes (run transact ∅ before) trace) record record) ∧
    (linksOf (run transact ∅ before) trace).length ≤ 8192 ∧
    (run transact ∅ before).rows <+: (run transact ∅ (before ++ later)).rows ∧
    (∀ l ∈ (run transact ∅ before).rows,
      recordCorrelationLink l (run transact ∅ before) = (.ok l, run transact ∅ before)) ∧
    (isLowerHex trace 32 = true → ∃ page, correlationLinks trace 8192 (run transact ∅ before) = .ok page ∧
      page.Perm (linksOf (run transact ∅ before) trace) ∧ validateCausalLinks page = .ok ()) := by
  have hs : Sound (run transact ∅ before) := (run_sound before sound_empty).1
  refine ⟨acyclic_of_sound hs trace, (validateCausalLinks_iff.1 (hs trace)).1, ?_, fun l hl => ?_, fun htrace => ?_⟩
  · rw [run_append]
    exact (run_sound later hs).2
  · unfold recordCorrelationLink
    rw [sound_valid hs hl]
    simp only [transaction, record_again hs hl, ok_bind]
  · have hpass := (validateCausalLinks_perm (linkPage_perm hs trace)).2 (hs trace)
    refine ⟨linkPage (run transact ∅ before) trace 8192, ?_, linkPage_perm hs trace, hpass⟩
    unfold correlationLinks
    rw [htrace, readLinks_page hs trace, hpass]
    rfl

end Control
end Bildr
