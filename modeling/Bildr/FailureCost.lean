import Bildr.FailureWire
import Bildr.FirstOf
import Mathlib.Algebra.BigOperators.Group.List.Basic
import Mathlib.Algebra.GroupWithZero.Nat
/-!
# FailureCost — what failures cost together

`aggregate_disjoint_cost` counts a scope by the first occurrence that has it.  Nothing makes two occurrences of a scope
agree, so the total is that of every order only when they do, or when the least bounds already reach the largest word
(`cost_total_orderless_iff`).
-/
namespace Bildr
namespace Failure

open Word (saturatingAdd)
open FirstOf (firstOf total leastTotal)

structure CostTotal where
  lowerMicrousd : UInt64
  upperMicrousd : UInt64
  unknownOccurrences : UInt64
deriving DecidableEq, Repr

structure Counting where
  total : CostTotal
  seen : List String

def Counting.add (s : Counting) (o : TypedOccurrence) : Counting :=
  match o.cost.scopeId, o.cost.lowerMicrousd, o.cost.upperMicrousd with
  | some scope, some lower, some upper =>
    if scope ∈ s.seen then s
    else ⟨⟨saturatingAdd s.total.lowerMicrousd lower, saturatingAdd s.total.upperMicrousd upper,
      s.total.unknownOccurrences⟩, scope :: s.seen⟩
  | _, _, _ => { s with total := { s.total with unknownOccurrences := s.total.unknownOccurrences + 1 } }

def aggregateDisjointCost (occurrences : List TypedOccurrence) : CostTotal :=
  (occurrences.foldl Counting.add ⟨⟨0, 0, 0⟩, []⟩).total

/-! ## The occurrences that are counted -/

def costKnown (o : TypedOccurrence) : Bool :=
  o.cost.scopeId.isSome && o.cost.lowerMicrousd.isSome && o.cost.upperMicrousd.isSome

def scopeOf (o : TypedOccurrence) : String := o.cost.scopeId.getD ""

def lowerOf (o : TypedOccurrence) : UInt64 := o.cost.lowerMicrousd.getD 0

def upperOf (o : TypedOccurrence) : UInt64 := o.cost.upperMicrousd.getD 0

def known (l : List TypedOccurrence) : List TypedOccurrence := l.filter costKnown

/-- What is added of each bound: that of the first occurrence of every scope not seen before. -/
def boundSum (f : TypedOccurrence → UInt64) (seen : List String) (l : List TypedOccurrence) (start : UInt64) : UInt64 :=
  ((firstOf scopeOf (known l)).filter (fun o => decide (scopeOf o ∉ seen))).foldl
    (fun sum o => saturatingAdd sum (f o)) start

theorem bounds_of_known {o : TypedOccurrence} (h : costKnown o = true) : o.cost.scopeId = some (scopeOf o) ∧
    o.cost.lowerMicrousd = some (lowerOf o) ∧ o.cost.upperMicrousd = some (upperOf o) := by
  unfold costKnown at h
  rw [Bool.and_eq_true, Bool.and_eq_true, Option.isSome_iff_exists, Option.isSome_iff_exists,
    Option.isSome_iff_exists] at h
  obtain ⟨⟨⟨scope, hscope⟩, lower, hlower⟩, upper, hupper⟩ := h
  unfold scopeOf lowerOf upperOf
  rw [hscope, hlower, hupper]
  exact ⟨rfl, rfl, rfl⟩

theorem add_seen {s : Counting} {o : TypedOccurrence} (hknown : costKnown o = true) (hseen : scopeOf o ∈ s.seen) :
    s.add o = s := by
  obtain ⟨hscope, hlower, hupper⟩ := bounds_of_known hknown
  unfold Counting.add
  rw [hscope, hlower, hupper]
  exact if_pos hseen

theorem add_new {s : Counting} {o : TypedOccurrence} (hknown : costKnown o = true) (hseen : scopeOf o ∉ s.seen) :
    s.add o = ⟨⟨saturatingAdd s.total.lowerMicrousd (lowerOf o), saturatingAdd s.total.upperMicrousd (upperOf o),
      s.total.unknownOccurrences⟩, scopeOf o :: s.seen⟩ := by
  obtain ⟨hscope, hlower, hupper⟩ := bounds_of_known hknown
  unfold Counting.add
  rw [hscope, hlower, hupper]
  exact if_neg hseen

theorem add_unknown {s : Counting} {o : TypedOccurrence} (hknown : costKnown o = false) :
    s.add o = { s with total := { s.total with unknownOccurrences := s.total.unknownOccurrences + 1 } } := by
  unfold Counting.add
  split
  · rename_i hscope hlower hupper
    unfold costKnown at hknown
    rw [hscope, hlower, hupper] at hknown
    cases hknown
  · rfl

theorem foldl_add : ∀ (l : List TypedOccurrence) (s : Counting),
    (l.foldl Counting.add s).total = ⟨boundSum lowerOf s.seen l s.total.lowerMicrousd,
      boundSum upperOf s.seen l s.total.upperMicrousd,
      s.total.unknownOccurrences + UInt64.ofNat (l.countP (fun o => !costKnown o))⟩
  | [], s     => by
    show s.total = ⟨s.total.lowerMicrousd, s.total.upperMicrousd, s.total.unknownOccurrences + 0⟩
    rw [UInt64.add_zero]
  | o :: l, s => by
    rw [List.foldl_cons, foldl_add l]
    cases hknown : costKnown o with
    | false =>
      have hskip : known (o :: l) = known l := List.filter_cons_of_neg (by rw [hknown]; exact Bool.false_ne_true)
      rw [add_unknown hknown, List.countP_cons_of_pos (by rw [hknown]; rfl)]
      unfold boundSum
      rw [hskip, UInt64.ofNat_add, UInt64.add_assoc, UInt64.add_comm 1]
      rfl
    | true =>
      have hkeep : known (o :: l) = o :: known l := List.filter_cons_of_pos hknown
      rw [List.countP_cons_of_neg (by rw [hknown]; exact Bool.false_ne_true)]
      by_cases hseen : scopeOf o ∈ s.seen
      · rw [add_seen hknown hseen]
        unfold boundSum
        rw [hkeep, FirstOf.firstOf_seen scopeOf hseen]
      · rw [add_new hknown hseen]
        unfold boundSum
        rw [hkeep, FirstOf.firstOf_unseen scopeOf hseen, List.foldl_cons, List.foldl_cons]

def largest : Nat := 18446744073709551615

theorem toNat_boundSum (f : TypedOccurrence → UInt64) (l : List TypedOccurrence) :
    (boundSum f [] l 0).toNat = min (total scopeOf (fun o => (f o).toNat) (known l)) largest := by
  unfold boundSum total largest
  rw [Word.toNat_saturatingSum, List.filter_eq_self.2 (fun o _ => by simp)]
  rw [show (0 : UInt64).toNat = 0 from rfl, Nat.zero_add]

theorem aggregate_eq (l : List TypedOccurrence) : aggregateDisjointCost l =
    ⟨boundSum lowerOf [] l 0, boundSum upperOf [] l 0, UInt64.ofNat (l.countP (fun o => !costKnown o))⟩ := by
  unfold aggregateDisjointCost
  rw [foldl_add]
  dsimp only
  rw [UInt64.zero_add]

/-! ## Every order -/

/-- A bound is the same for every order: each scope has one, or the least of each scope reach the largest word. -/
def Settled (f : TypedOccurrence → UInt64) (l : List TypedOccurrence) : Prop :=
  (∀ o ∈ known l, ∀ o' ∈ known l, scopeOf o = scopeOf o' → f o = f o') ∨
    largest ≤ leastTotal scopeOf largest (fun o => (f o).toNat) (known l)

/-- Each scope is counted by one of its occurrences, and every other occurrence as unknown. -/
def CountsOnce (l : List TypedOccurrence) (t : CostTotal) : Prop :=
  (∃ counted : List TypedOccurrence, (∀ o ∈ counted, o ∈ known l) ∧ (counted.map scopeOf).Nodup ∧
    (∀ o ∈ known l, scopeOf o ∈ counted.map scopeOf) ∧
    t.lowerMicrousd.toNat = min (counted.map (fun o => (lowerOf o).toNat)).sum largest ∧
    t.upperMicrousd.toNat = min (counted.map (fun o => (upperOf o).toNat)).sum largest) ∧
  t.unknownOccurrences = UInt64.ofNat (l.countP (fun o => !costKnown o))

/-- The total of the list is that of any order of it, an interval, and counts each scope once. -/
structure Orderless (l : List TypedOccurrence) : Prop where
  same : ∀ m, m.Perm l → aggregateDisjointCost m = aggregateDisjointCost l
  interval : (aggregateDisjointCost l).lowerMicrousd ≤ (aggregateDisjointCost l).upperMicrousd
  once : CountsOnce l (aggregateDisjointCost l)

theorem settled_iff (f : TypedOccurrence → UInt64) (l : List TypedOccurrence) :
    (∀ m, m.Perm l → boundSum f [] m 0 = boundSum f [] l 0) ↔ Settled f l := by
  have htop : ∀ o ∈ known l, (f o).toNat ≤ largest := by
    intro o _
    have hlt := (f o).toNat_lt
    unfold largest
    omega
  have hsums := @FirstOf.sums_agree_iff _ _ _ scopeOf largest (fun o => (f o).toNat) _ htop
  unfold Settled
  simp only [UInt64.toNat_inj] at hsums
  rw [← hsums]
  constructor
  · intro h m hm
    -- an order of the known ones is one of all: the others may come last
    have hfilter : known (m ++ l.filter (fun o => !costKnown o)) = m := by
      unfold known
      rw [List.filter_append, List.filter_eq_self.2 (fun o ho => (List.mem_filter.1 (hm.mem_iff.1 ho)).2),
        List.filter_filter, List.filter_eq_nil_iff.2 (by simp), List.append_nil]
    have hperm : (m ++ l.filter (fun o => !costKnown o)).Perm l :=
      (hm.append_right _).trans (List.filter_append_perm costKnown l)
    have hsame := congrArg UInt64.toNat (h _ hperm)
    rwa [toNat_boundSum, toNat_boundSum, hfilter] at hsame
  · intro h m hm
    rw [← UInt64.toNat_inj, toNat_boundSum, toNat_boundSum]
    exact h (known m) (hm.filter costKnown)

theorem aggregate_countsOnce (l : List TypedOccurrence) : CountsOnce l (aggregateDisjointCost l) := by
  rw [aggregate_eq]
  refine ⟨⟨firstOf scopeOf (known l), fun o ho => FirstOf.mem_of_mem_firstOf scopeOf ho, FirstOf.nodup_keys scopeOf _,
    fun o ho => ?_, toNat_boundSum lowerOf l, toNat_boundSum upperOf l⟩, rfl⟩
  obtain ⟨b, hb, hscope⟩ := FirstOf.exists_first scopeOf ho
  exact List.mem_map.2 ⟨b, hb, hscope⟩

theorem aggregate_interval {l : List TypedOccurrence} (h : ∀ o ∈ known l, lowerOf o ≤ upperOf o) :
    (aggregateDisjointCost l).lowerMicrousd ≤ (aggregateDisjointCost l).upperMicrousd := by
  rw [aggregate_eq, UInt64.le_iff_toNat_le, toNat_boundSum, toNat_boundSum]
  have hsum : total scopeOf (fun o => (lowerOf o).toNat) (known l) ≤ total scopeOf (fun o => (upperOf o).toNat) (known l) :=
    FirstOf.sum_le_of_le (fun o ho => UInt64.le_iff_toNat_le.1 (h o (FirstOf.mem_of_mem_firstOf scopeOf ho)))
  omega

theorem fromTyped_interval {sha256 : String → String} {i : FailureInput} {o : TypedOccurrence}
    (h : fromTyped sha256 i = .ok o) (hknown : costKnown o = true) : lowerOf o ≤ upperOf o := by
  obtain ⟨hvalid, rfl⟩ := fromTyped_ok h
  obtain ⟨hscope, hlower, hupper⟩ := bounds_of_known hknown
  dsimp only at hscope hlower hupper
  unfold CostAttribution.valid at hvalid
  rw [hscope, hlower, hupper] at hvalid
  exact of_decide_eq_true (Bool.and_eq_true_iff.1 hvalid).2

/-- **When the order of failures does not matter to their cost.** -/
theorem cost_total_orderless_iff (sha256 : String → String) {l : List TypedOccurrence}
    (h : ∀ o ∈ l, ∃ i, fromTyped sha256 i = .ok o) : Orderless l ↔ Settled lowerOf l ∧ Settled upperOf l := by
  rw [← settled_iff, ← settled_iff]
  constructor
  · intro horderless
    refine ⟨fun m hm => ?_, fun m hm => ?_⟩
    · have hsame := congrArg CostTotal.lowerMicrousd (horderless.same m hm)
      rwa [aggregate_eq, aggregate_eq] at hsame
    · have hsame := congrArg CostTotal.upperMicrousd (horderless.same m hm)
      rwa [aggregate_eq, aggregate_eq] at hsame
  · rintro ⟨hlower, hupper⟩
    refine ⟨fun m hm => ?_, aggregate_interval (fun o ho => ?_), aggregate_countsOnce l⟩
    · rw [aggregate_eq, aggregate_eq, hlower m hm, hupper m hm, hm.countP_eq]
    · obtain ⟨ho, hknown⟩ := List.mem_filter.1 ho
      obtain ⟨i, hi⟩ := h o ho
      exact fromTyped_interval hi hknown

def failedFor (id : String) (upper : UInt64) : TypedOccurrence :=
  ⟨⟨id, []⟩, "repo", "attempt-1", .attemptTerminal, some .sourceFailure, .sourceFailure, .medium, "fingerprint",
    .known "attempt-1" 0 upper⟩

theorem fromTyped_failedFor {id : String} (h : safeToken id = true) (upper : UInt64) :
    ∃ i, fromTyped (fun _ => "fingerprint") i = .ok (failedFor id upper) := by
  refine ⟨⟨id, "repo", "attempt-1", .attemptTerminal, some .sourceFailure, .medium, .known "attempt-1" 0 upper⟩, ?_⟩
  have hcost : (CostAttribution.known "attempt-1" 0 upper).valid = true := by
    show (safeFailureCostScope "attempt-1" && decide ((0 : UInt64) ≤ upper)) = true
    rw [decide_eq_true (UInt64.zero_le)]
    decide
  have hids : (safeToken id && safeControllerIdentifier "repo" && safeControllerIdentifier "attempt-1") = true := by
    rw [h]
    decide
  unfold fromTyped
  dsimp only
  rw [hids, hcost]
  rfl

theorem agreeing_failures_orderless :
    Orderless [failedFor "one" 20, failedFor "two" 20] ↔
      Settled lowerOf [failedFor "one" 20, failedFor "two" 20] ∧
        Settled upperOf [failedFor "one" 20, failedFor "two" 20] := by
  refine cost_total_orderless_iff (fun _ => "fingerprint") (fun o ho => ?_)
  rcases List.mem_cons.1 ho with rfl | ho
  · exact fromTyped_failedFor (by decide) 20
  · rw [List.mem_singleton.1 ho]
    exact fromTyped_failedFor (by decide) 20

/-- Two failures of one scope with different bounds: the first counts. -/
theorem failures_of_scope_ordered :
    (aggregateDisjointCost [failedFor "one" 20, failedFor "two" 30]).upperMicrousd = 20 ∧
      (aggregateDisjointCost [failedFor "two" 30, failedFor "one" 20]).upperMicrousd = 30 ∧
      (∀ o ∈ [failedFor "one" 20, failedFor "two" 30], ∃ i, fromTyped (fun _ => "fingerprint") i = .ok o) ∧
      ¬ Orderless [failedFor "one" 20, failedFor "two" 30] := by
  refine ⟨by decide, by decide, fun o ho => ?_, fun h => ?_⟩
  · rcases List.mem_cons.1 ho with rfl | ho
    · exact fromTyped_failedFor (by decide) 20
    · rw [List.mem_singleton.1 ho]
      exact fromTyped_failedFor (by decide) 30
  · have hsame := h.same _ (List.Perm.swap (failedFor "one" 20) (failedFor "two" 30) [])
    exact absurd (congrArg CostTotal.upperMicrousd hsame) (by decide)

end Failure
end Bildr
