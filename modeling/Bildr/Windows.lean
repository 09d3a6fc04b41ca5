import Mathlib.Order.MinMax
/-!
# Windows — a log read in bounded windows behind a mark

The entries of a log have rising keys and new entries come at the end.  A reader takes the first entries beyond a mark and
moves the mark to the last of them.  Readers overlap: one moves the mark on a window that it took at an earlier mark, so a
window is read with the log and the mark of now (`Gapless.passed`).
-/
namespace Windows

variable {α κ : Type} [LinearOrder κ] (key : α → κ)

def Rising (log : List α) : Prop := log.Pairwise (fun a b => key a < key b)

/-- The first `n` entries beyond a mark. -/
def window (log : List α) (mark : κ) (n : Nat) : List α := (log.filter (fun a => decide (mark < key a))).take n

/-- No entry of the log is missing in `seen` between the mark and the last of `seen`. -/
def Gapless (log : List α) (mark : κ) (seen : List α) : Prop :=
  ∀ last, seen.getLast? = some last → ∀ a ∈ log, mark < key a → key a ≤ key last → a ∈ seen

variable {key} {log : List α} {mark : κ} {seen : List α} {n : Nat}

theorem rising_concat {a : α} (h : Rising key log) (ha : ∀ b ∈ log, key b < key a) : Rising key (log ++ [a]) :=
  List.pairwise_append.2 ⟨h, List.pairwise_singleton _ _, fun b hb c hc => by rw [List.mem_singleton.1 hc]; exact ha b hb⟩

theorem Rising.filter (h : Rising key log) (p : α → Bool) : Rising key (log.filter p) :=
  List.Pairwise.filter p h

theorem mem_window {a : α} (h : a ∈ window key log mark n) : a ∈ log ∧ mark < key a := by
  obtain ⟨hmem, hlt⟩ := List.mem_filter.1 (List.mem_of_mem_take h)
  exact ⟨hmem, by simpa using hlt⟩

/-- **A window has no gap**: what it leaves out is beyond its last entry. -/
theorem window_gapless (h : Rising key log) : Gapless key log mark (window key log mark n) := by
  intro last hlast a ha hmark hle
  have hbeyond : a ∈ log.filter (fun b => decide (mark < key b)) := List.mem_filter.2 ⟨ha, by simpa using hmark⟩
  rw [← List.take_append_drop n (log.filter (fun b => decide (mark < key b)))] at hbeyond
  rcases List.mem_append.1 hbeyond with hin | hout
  · exact hin
  · have hsplit := (h.filter (fun b => decide (mark < key b)))
    rw [← List.take_append_drop n (log.filter (fun b => decide (mark < key b)))] at hsplit
    have hlt := (List.pairwise_append.1 hsplit).2.2 last (List.mem_of_getLast? hlast) a hout
    exact absurd hle (not_le.2 hlt)

theorem Gapless.concat {a : α} (h : Gapless key log mark seen) (hseen : ∀ b ∈ seen, b ∈ log)
    (ha : ∀ b ∈ log, key b < key a) : Gapless key (log ++ [a]) mark seen := by
  intro last hlast b hb hmark hle
  rcases List.mem_append.1 hb with hb | hb
  · exact h last hlast b hb hmark hle
  · have hlt := ha last (hseen last (List.mem_of_getLast? hlast))
    rw [List.mem_singleton.1 hb] at hle
    exact absurd hle (not_le.2 hlt)

/-- **What a moving mark passes was seen**: the window was taken at a mark that the mark of now is not behind. -/
theorem Gapless.passed {base : κ} {last a : α} (h : Gapless key log base seen) (hbase : base ≤ mark)
    (hlast : seen.getLast? = some last) (ha : a ∈ log) (hmark : mark < key a) (hle : key a ≤ max mark (key last)) :
    a ∈ seen := by
  refine h last hlast a ha (lt_of_le_of_lt hbase hmark) ?_
  rcases le_max_iff.1 hle with hle | hle
  · exact absurd hle (not_le.2 hmark)
  · exact hle

end Windows
