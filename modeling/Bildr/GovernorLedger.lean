import Bildr.Governor
import Bildr.PlanStorage
import Bildr.Trace
/-!
# GovernorLedger — what stays in the ledger of a governor

A completed milestone of the stored checkpoint is put back into every report (`foldlM_restore_mem`), relabelling leaves
completed milestones alone (`mem_settle`), and validation asks for distinct ids (`validateLedger_nodup`): what was
stored as completed stays as it is over any run of reports.
-/
namespace Bildr
namespace Governor

open Plan (OrchestratorError Packet check)
open Usage (u64Max satAdd)
open Trace (run run_append)

def ids (ms : List MilestoneCheckpoint) : List String := ms.map MilestoneCheckpoint.id

/-! ## Restoring the completed milestones -/

theorem restore_mem {ms ms' : List MilestoneCheckpoint} {c : MilestoneCheckpoint} (h : restore ms c = .ok ms') :
    c ∈ ms' ∧ ∀ m ∈ ms, m.id ≠ c.id → m ∈ ms' := by
  unfold restore at h
  cases hp : ms.findIdx? (fun m => m.id == c.id) with
  | none =>
    simp only [hp] at h
    split at h
    · cases h
      refine ⟨by simp, fun m hm _ => List.mem_append_left _ hm⟩
    · cases h
  | some position =>
    simp only [hp, Except.ok.injEq] at h
    subst h
    obtain ⟨hlt, hid, -⟩ := List.findIdx?_eq_some_iff_getElem.1 hp
    refine ⟨List.mem_set hlt c, fun m hm hne => ?_⟩
    obtain ⟨i, hi, rfl⟩ := List.mem_iff_getElem.1 hm
    have hpi : position ≠ i := by
      rintro rfl
      exact hne (by simpa using hid)
    refine List.mem_iff_getElem.2 ⟨i, by simpa using hi, ?_⟩
    rw [List.getElem_set_ne hpi]

/-- **Every completed milestone is back**: with distinct ids, no later one takes the place of an earlier one. -/
theorem foldlM_restore_mem : ∀ {cs ms ms' : List MilestoneCheckpoint}, (ids cs).Nodup →
    cs.foldlM restore ms = .ok ms' →
    (∀ c ∈ cs, c ∈ ms') ∧ ∀ m ∈ ms, m.id ∉ ids cs → m ∈ ms'
  | [], ms, ms', _, h => by
    cases h
    exact ⟨by simp, fun m hm _ => hm⟩
  | c :: cs, ms, ms', hn, h => by
    rw [List.foldlM_cons] at h
    obtain ⟨ms₁, hc, h⟩ := bind_ok h
    rw [ids, List.map_cons, List.nodup_cons] at hn
    obtain ⟨hin, hkeep⟩ := restore_mem hc
    obtain ⟨hall, hrest⟩ := foldlM_restore_mem hn.2 h
    refine ⟨fun d hd => ?_, fun m hm hid => ?_⟩
    · rcases List.mem_cons.1 hd with rfl | hd
      · exact hrest d hin hn.1
      · exact hall d hd
    · simp only [ids, List.map_cons, List.mem_cons, not_or] at hid
      exact hrest m (hkeep m hm hid.1) hid.2

/-! ## Settling the status -/

theorem mem_relabel {id label : String} {ms : List MilestoneCheckpoint} {m : MilestoneCheckpoint} (hm : m ∈ ms)
    (hc : m.completed = true) : m ∈ relabel id label ms :=
  List.mem_map.2 ⟨m, hm, by rw [if_pos hc]⟩

theorem mem_settle {next c : GovernorCheckpoint} (h : settle next = .ok c) :
    c.revision = next.revision ∧ ∀ m ∈ next.milestones, m.completed = true → m ∈ c.milestones := by
  unfold settle at h
  split at h
  · cases h
    exact ⟨rfl, fun m hm _ => hm⟩
  split at h
  · unfold reconcileProgressing at h
    obtain ⟨active, -, h⟩ := bind_ok h
    cases h
    exact ⟨rfl, fun m hm hc => mem_relabel hm hc⟩
  split at h
  · unfold reconcileBlocked at h
    obtain ⟨blocked, -, h⟩ := bind_ok h
    cases h
    exact ⟨rfl, fun m hm hc => mem_relabel hm hc⟩
  · cases h
    exact ⟨rfl, fun m hm _ => hm⟩

theorem ids_filter_nodup {p : MilestoneCheckpoint → Bool} {ms : List MilestoneCheckpoint} (h : (ids ms).Nodup) :
    (ids (ms.filter p)).Nodup :=
  h.sublist (List.filter_sublist.map _)

theorem reconcile_keeps {prior next c : GovernorCheckpoint} (hn : (ids prior.milestones).Nodup)
    (h : reconcileGovernorCheckpoint prior next = .ok c) :
    c.revision = satAdd prior.revision 1 ∧ ∀ m ∈ prior.milestones, m.completed = true → m ∈ c.milestones := by
  unfold reconcileGovernorCheckpoint at h
  obtain ⟨ms, hms, h⟩ := bind_ok h
  obtain ⟨hrev, hkeep⟩ := mem_settle h
  refine ⟨hrev, fun m hm hc => hkeep m ?_ hc⟩
  exact (foldlM_restore_mem (ids_filter_nodup hn) hms).1 m (List.mem_filter.2 ⟨hm, hc⟩)

/-! ## What validation gives -/

theorem validateLedger_nodup : ∀ {met : List String} {ms : List MilestoneCheckpoint}, validateLedger met ms = .ok () →
    (ids ms).Nodup ∧ ∀ i ∈ ids ms, i ∉ met
  | _, [], _ => ⟨List.nodup_nil, by simp [ids]⟩
  | met, m :: ms, h => by
    unfold validateLedger at h
    obtain ⟨_, hm, h⟩ := bind_ok h
    obtain ⟨_, -, h⟩ := bind_ok h
    have hmet : m.id ∉ met := by
      have hb := ensure_ok hm
      simp only [Bool.not_eq_true', Bool.or_eq_false_iff] at hb
      intro hin
      rw [List.contains_iff_mem.2 hin] at hb
      exact Bool.noConfusion hb.2
    obtain ⟨hn, hout⟩ := validateLedger_nodup h
    refine ⟨?_, fun i hi => ?_⟩
    · rw [ids, List.map_cons, List.nodup_cons]
      exact ⟨fun hin => hout m.id hin List.mem_cons_self, hn⟩
    · rcases List.mem_cons.1 hi with rfl | hi
      · exact hmet
      · exact fun hin => hout i hi (List.mem_cons_of_mem m.id hin)

structure Ledger (c : GovernorCheckpoint) : Prop where
  nodup : (ids c.milestones).Nodup
  least : 3 ≤ c.milestones.length
  most : c.milestones.length ≤ 50

theorem ledger_of_valid {packet : Packet} {c : GovernorCheckpoint} (h : validateGovernorCheckpoint packet c = .ok ()) :
    Ledger c := by
  unfold validateGovernorCheckpoint at h
  obtain ⟨_, hlen, h⟩ := bind_ok h
  obtain ⟨_, -, h⟩ := bind_ok h
  obtain ⟨_, -, h⟩ := bind_ok h
  obtain ⟨_, hled, -⟩ := bind_ok h
  have hb := ensure_ok hlen
  simp only [Bool.and_eq_true, decide_eq_true_eq] at hb
  exact ⟨(validateLedger_nodup hled).1, hb.1, hb.2⟩

/-! ## Reports -/

theorem accept_keeps {packet : Packet} {stored next c : GovernorCheckpoint} (hl : Ledger stored)
    (h : acceptCheckpoint packet stored next = .ok c) :
    Ledger c ∧ c.revision = satAdd stored.revision 1 ∧
      ∀ m ∈ stored.milestones, m.completed = true → m ∈ c.milestones := by
  unfold acceptCheckpoint at h
  obtain ⟨c', hc, h⟩ := bind_ok h
  obtain ⟨_, hv, h⟩ := bind_ok h
  cases h
  exact ⟨ledger_of_valid hv, reconcile_keeps hl.nodup hc⟩

theorem report_ok {q : Packet × GovernorCheckpoint} {stored c : GovernorCheckpoint}
    (h : acceptCheckpoint q.1 stored q.2 = .ok c) : report stored q = c := by
  unfold report
  rw [h]

theorem report_keeps {stored : GovernorCheckpoint} (q : Packet × GovernorCheckpoint) (hl : Ledger stored) :
    Ledger (report stored q) ∧ ∀ m ∈ stored.milestones, m.completed = true → m ∈ (report stored q).milestones := by
  cases h : acceptCheckpoint q.1 stored q.2 with
  | error e =>
    have hr : report stored q = stored := by
      unfold report
      rw [h]
    rw [hr]
    exact ⟨hl, fun m hm _ => hm⟩
  | ok c =>
    rw [report_ok h]
    obtain ⟨hl', -, hkeep⟩ := accept_keeps hl h
    exact ⟨hl', hkeep⟩

theorem run_keeps : ∀ (reports : List (Packet × GovernorCheckpoint)) {stored : GovernorCheckpoint}, Ledger stored →
    Ledger (run report stored reports) ∧
      ∀ m ∈ stored.milestones, m.completed = true → m ∈ (run report stored reports).milestones
  | [], _, hl => ⟨hl, fun m hm _ => hm⟩
  | q :: reports, stored, hl => by
    obtain ⟨hl', hkeep⟩ := report_keeps q hl
    obtain ⟨hl'', hrun⟩ := run_keeps reports hl'
    exact ⟨hl'', fun m hm hc => hrun m (hkeep m hm hc) hc⟩

/-- **The ledger of a governor only grows in what is completed**, whatever is reported. -/
theorem ledger_monotone (packet : Packet) (start : GovernorCheckpoint)
    (hstart : validateGovernorCheckpoint packet start = .ok ()) (reports : List (Packet × GovernorCheckpoint)) :
    (ids (run report start reports).milestones).Nodup ∧
    3 ≤ (run report start reports).milestones.length ∧ (run report start reports).milestones.length ≤ 50 ∧
    (∀ m ∈ (run report start reports).milestones, m.status = "completed" →
      ∀ later, m ∈ (run report start (reports ++ later)).milestones) ∧
    ∀ q c, acceptCheckpoint q.1 (run report start reports) q.2 = .ok c →
      run report start (reports ++ [q]) = c ∧
      ((run report start reports).revision < u64Max → c.revision = (run report start reports).revision + 1) := by
  obtain ⟨hl, -⟩ := run_keeps reports (ledger_of_valid hstart)
  refine ⟨hl.nodup, hl.least, hl.most, fun m hm hc later => ?_, fun q c hq => ⟨?_, fun hlt => ?_⟩⟩
  · rw [run_append]
    exact (run_keeps later hl).2 m hm (by simp [MilestoneCheckpoint.completed, hc])
  · rw [run_append]
    exact report_ok hq
  · rw [(accept_keeps hl hq).2.1]
    exact Nat.min_eq_left hlt

/-! ## A report that forgets a milestone -/

def slice (id status : String) : MilestoneCheckpoint := ⟨id, "Slice", status, "Built", ["It works"]⟩

def progressing (revision : Nat) (current : String) (milestones : List MilestoneCheckpoint) : GovernorCheckpoint :=
  ⟨revision, "progressing", milestones, some current, some "Slice", none, "clean"⟩

/-- The first slice is done; the report restates it as pending, under an old revision. -/
theorem ledger_keeps_forgotten :
    report (progressing 6 "M2" [slice "M1" "completed", slice "M2" "in_progress", slice "M3" "pending"])
      (Plan.packet "T1" [] [], progressing 1 "M3" [slice "M3" "pending", slice "M1" "pending", slice "M2" "completed"]) =
      progressing 7 "M3" [slice "M3" "in_progress", slice "M1" "completed", slice "M2" "completed"] ∧
    (ids (run report (progressing 6 "M2" [slice "M1" "completed", slice "M2" "in_progress", slice "M3" "pending"])
      [(Plan.packet "T1" [] [], progressing 1 "M3" [slice "M3" "pending", slice "M1" "pending",
        slice "M2" "completed"])]).milestones).Nodup :=
  ⟨by decide, (ledger_monotone (Plan.packet "T1" [] [])
    (progressing 6 "M2" [slice "M1" "completed", slice "M2" "in_progress", slice "M3" "pending"]) (by decide)
    [(Plan.packet "T1" [] [], progressing 1 "M3" [slice "M3" "pending", slice "M1" "pending",
      slice "M2" "completed"])]).1⟩

end Governor
end Bildr
