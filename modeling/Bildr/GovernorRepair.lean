import Bildr.GovernorLedger
/-!
# GovernorRepair — what reconciling a valid report gives

The completed milestones of the stored checkpoint replace the restated ones and are appended otherwise (`foldlM_restore_eq`);
the status and the current milestone are settled anew.  What comes out is always valid (`settle_valid`), but nothing comes
out when the milestones that remain have no status the report's status looks for (`reconcile_repairs_iff`).
-/
namespace Bildr
namespace Governor

open Plan (OrchestratorError Packet check)
open Usage (satAdd)

/-! ## What validation asks for -/

def MilestoneCheckpoint.filled (m : MilestoneCheckpoint) : Bool :=
  !((Session.trim m.id).isEmpty || (Session.trim m.title).isEmpty || (Session.trim m.outcome).isEmpty || m.acceptance.isEmpty)

def milestoneStatuses : List String := ["pending", "completed", "in_progress", "blocked"]

theorem check_iff {b : Bool} {why : String} : check b why = .ok () ↔ b = true := by
  cases b <;> simp [check, ensure]

theorem check_bind_iff {α : Type} {b : Bool} {why : String} {f : Unit → Except OrchestratorError α} {a : α} :
    (check b why >>= f) = .ok a ↔ b = true ∧ f () = .ok a := by
  cases b with
  | false => simp [check]
  | true => simp [check]

theorem validateLedger_iff : ∀ {met : List String} {ms : List MilestoneCheckpoint}, validateLedger met ms = .ok () ↔
    (∀ m ∈ ms, m.filled = true ∧ m.status ∈ milestoneStatuses) ∧ (ids ms).Nodup ∧ ∀ i ∈ ids ms, i ∉ met
  | _, [] => by simp [validateLedger, ids]
  | met, m :: ms => by
    have ih := @validateLedger_iff (m.id :: met) ms
    have hentry : (!((Session.trim m.id).isEmpty || (Session.trim m.title).isEmpty || (Session.trim m.outcome).isEmpty ||
        m.acceptance.isEmpty || met.contains m.id)) = true ↔ m.filled = true ∧ m.id ∉ met := by
      rw [Bool.not_or, Bool.and_eq_true]
      refine and_congr Iff.rfl ?_
      rw [Bool.not_eq_true', ← Bool.not_eq_true, List.contains_iff_mem]
    rw [validateLedger, check_bind_iff, check_bind_iff, ih, hentry, List.contains_iff_mem]
    have hids : ids (m :: ms) = m.id :: ids ms := rfl
    rw [hids, List.nodup_cons]
    constructor
    · rintro ⟨⟨hfilled, hm⟩, hstatus, hall, hn, hout⟩
      refine ⟨fun k hk => ?_, ⟨fun hin => hout m.id hin List.mem_cons_self, hn⟩, fun i hi => ?_⟩
      · rcases List.mem_cons.1 hk with rfl | hk
        · exact ⟨hfilled, hstatus⟩
        · exact hall k hk
      · rcases List.mem_cons.1 hi with rfl | hi
        · exact hm
        · exact fun hin => hout i hi (List.mem_cons_of_mem _ hin)
    · rintro ⟨hall, ⟨hm, hn⟩, hout⟩
      refine ⟨⟨(hall m List.mem_cons_self).1, hout m.id List.mem_cons_self⟩, (hall m List.mem_cons_self).2,
        fun k hk => hall k (List.mem_cons_of_mem m hk), hn, fun i hi hin => ?_⟩
      rcases List.mem_cons.1 hin with rfl | hin
      · exact hm hi
      · exact hout i (List.mem_cons_of_mem _ hi) hin

/-- What validation asks of the ledger and the workspace, whatever the status. -/
structure Sound (packet : Packet) (c : GovernorCheckpoint) : Prop where
  least : 3 ≤ c.milestones.length
  most : c.milestones.length ≤ 50
  workspace : c.workspaceState ∈ ["clean", "uncommitted", "controller_committed", "external_only"]
  entries : ∀ m ∈ c.milestones, m.filled = true ∧ m.status ∈ milestoneStatuses
  nodup : (ids c.milestones).Nodup
  planned : ∀ p ∈ packet.milestones, p.id ∈ ids c.milestones

theorem mem_ids {ms : List MilestoneCheckpoint} {id : String} : ms.any (fun m => m.id == id) = true ↔ id ∈ ids ms := by
  simp [ids]

theorem validate_iff {packet : Packet} {c : GovernorCheckpoint} : validateGovernorCheckpoint packet c = .ok () ↔
    Sound packet c ∧ c.status ∈ ["progressing", "blocked", "complete"] ∧ validateStatus c = .ok () ∧
      validateCurrent c = .ok () := by
  unfold validateGovernorCheckpoint
  rw [check_bind_iff, check_bind_iff, check_bind_iff, List.contains_iff_mem, List.contains_iff_mem, Bool.and_eq_true,
    decide_eq_true_eq, decide_eq_true_eq]
  constructor
  · rintro ⟨⟨hleast, hmost⟩, hstatus, hworkspace, h⟩
    obtain ⟨_, hledger, h⟩ := bind_ok h
    obtain ⟨_, hplanned, h⟩ := bind_ok h
    obtain ⟨_, hst, hcurrent⟩ := bind_ok h
    obtain ⟨hentries, hn, -⟩ := validateLedger_iff.1 hledger
    exact ⟨⟨hleast, hmost, hworkspace, hentries, hn, fun p hp => mem_ids.1 (check_iff.1 (forM_ok hplanned hp))⟩, hstatus,
      hst, hcurrent⟩
  · rintro ⟨hs, hstatus, hst, hcurrent⟩
    have hledger : validateLedger [] c.milestones = .ok () := validateLedger_iff.2 ⟨hs.entries, hs.nodup, by simp⟩
    have hplanned : packet.milestones.forM (fun planned => check (c.milestones.any (fun m => m.id == planned.id))
        ("governor checkpoint omitted planned milestone " ++ planned.id)) = .ok () := by
      rcases forM_cases (f := fun planned => check (c.milestones.any (fun m => m.id == planned.id))
        ("governor checkpoint omitted planned milestone " ++ planned.id)) packet.milestones with ⟨hok, -⟩ | ⟨p, hp, e, he, -⟩
      · exact hok
      · rw [check_iff.2 (mem_ids.2 (hs.planned p hp))] at he
        cases he
    refine ⟨⟨hs.least, hs.most⟩, hstatus, hs.workspace, ?_⟩
    rw [hledger, ok_bind, hplanned, ok_bind, hst, ok_bind]
    exact hcurrent

/-! ## The completed milestones back in the ledger -/

def omitted (cs ms : List MilestoneCheckpoint) : List MilestoneCheckpoint := cs.filter (fun c => !(ids ms).contains c.id)

/-- Every milestone is replaced by the completed one of its id, and the ones left out follow. -/
def restored (cs ms : List MilestoneCheckpoint) : List MilestoneCheckpoint :=
  ms.map (fun m => (cs.find? (fun c => c.id == m.id)).getD m) ++ omitted cs ms

theorem ids_map {ms : List MilestoneCheckpoint} {f : MilestoneCheckpoint → MilestoneCheckpoint} (h : ∀ m, (f m).id = m.id) :
    ids (ms.map f) = ids ms := by
  unfold ids
  rw [List.map_map]
  exact List.map_congr_left (fun m _ => h m)

theorem restore_eq (c : MilestoneCheckpoint) {ms : List MilestoneCheckpoint} (hn : (ids ms).Nodup) :
    restore ms c = if c.id ∈ ids ms then .ok (ms.map (fun m => if m.id = c.id then c else m))
      else if ms.length < 50 then .ok (ms ++ [c])
      else .error (.validation ("governor checkpoint omitted completed milestone " ++ c.id ++ " and the ledger is full")) := by
  unfold restore
  cases hp : ms.findIdx? (fun m => m.id == c.id) with
  | none =>
    have hout : c.id ∉ ids ms := by
      rw [List.findIdx?_eq_none_iff] at hp
      intro hin
      obtain ⟨m, hm, hid⟩ := List.mem_map.1 hin
      have hne := hp m hm
      rw [hid, beq_self_eq_true] at hne
      cases hne
    rw [if_neg hout]
  | some position =>
    obtain ⟨hlt, hid, -⟩ := List.findIdx?_eq_some_iff_getElem.1 hp
    have hid : ms[position].id = c.id := beq_iff_eq.1 hid
    have hin : c.id ∈ ids ms := by
      rw [← hid]
      exact List.mem_map_of_mem (List.getElem_mem hlt)
    rw [if_pos hin]
    refine congrArg Except.ok (List.ext_getElem (by simp) (fun i hi hi' => ?_))
    rw [List.length_set] at hi
    rw [List.getElem_set, List.getElem_map]
    by_cases hpos : position = i
    · subst hpos
      rw [if_pos rfl, if_pos hid]
    · rw [if_neg hpos, if_neg]
      intro hsame
      -- the ids are distinct, so only one position has the id
      have hlt' : position < (ids ms).length := by simpa [ids] using hlt
      have hi'' : i < (ids ms).length := by simpa [ids] using hi
      have hat : (ids ms)[position] = (ids ms)[i] := by
        simp only [ids, List.getElem_map]
        rw [hid, hsame]
      exact hpos ((List.Nodup.getElem_inj_iff hn).1 hat)

/-- **Putting the completed milestones back** gives the replaced ledger, as long as there is room for the ones left out. -/
theorem foldlM_restore_eq : ∀ {cs ms : List MilestoneCheckpoint}, (ids cs).Nodup → (ids ms).Nodup → ms.length ≤ 50 →
    if ms.length + (omitted cs ms).length ≤ 50 then cs.foldlM restore ms = .ok (restored cs ms)
      else ∃ e, cs.foldlM restore ms = .error e
  | [], ms, _, _, hroom => by
    rw [if_pos (by simpa [omitted] using hroom)]
    simp [restored, omitted]
  | c :: cs, ms, hc, hm, hroom => by
    have hids : ids (c :: cs) = c.id :: ids cs := rfl
    rw [hids, List.nodup_cons] at hc
    rw [List.foldlM_cons, restore_eq c hm]
    by_cases hin : c.id ∈ ids ms
    · -- the milestone is replaced, and the ids stay as they are
      have hsame : ids (ms.map (fun m => if m.id = c.id then c else m)) = ids ms := ids_map (fun m => by
        split
        · rename_i h
          exact h.symm
        · rfl)
      have homitted : omitted (c :: cs) ms = omitted cs (ms.map (fun m => if m.id = c.id then c else m)) := by
        unfold omitted
        rw [hsame, List.filter_cons_of_neg (by simpa using hin)]
      have hrestored : restored (c :: cs) ms = restored cs (ms.map (fun m => if m.id = c.id then c else m)) := by
        unfold restored
        rw [homitted, List.map_map]
        refine congrArg (· ++ _) (List.map_congr_left (fun m _ => ?_))
        simp only [Function.comp]
        rw [List.find?_cons]
        by_cases hid : m.id = c.id
        · have hnone : cs.find? (fun d => d.id == c.id) = none := by
            rw [List.find?_eq_none]
            intro d hd hsame
            exact hc.1 (List.mem_map.2 ⟨d, hd, beq_iff_eq.1 hsame⟩)
          rw [if_pos hid, hid, beq_self_eq_true, hnone]
          rfl
        · rw [if_neg hid, beq_eq_false_iff_ne.2 (Ne.symm hid)]
      have ih := foldlM_restore_eq hc.2 (hsame.symm ▸ hm) (by rw [List.length_map]; exact hroom)
      rw [List.length_map] at ih
      rw [if_pos hin, ok_bind, homitted, hrestored]
      exact ih
    · rw [if_neg hin]
      have homitted : omitted (c :: cs) ms = c :: omitted cs (ms ++ [c]) := by
        unfold omitted
        rw [List.filter_cons_of_pos (by simpa using hin)]
        refine congrArg _ (List.filter_congr (fun d hd => ?_))
        have hne : d.id ≠ c.id := fun h => hc.1 (h ▸ List.mem_map_of_mem hd)
        simp [ids, hne]
      by_cases hfull : ms.length < 50
      · have hn : (ids (ms ++ [c])).Nodup := by
          unfold ids at hin hm ⊢
          rw [List.map_append, List.map_singleton, List.nodup_append]
          exact ⟨hm, List.nodup_singleton _, fun i hi j hj h => hin (by
            rw [List.mem_singleton] at hj
            rw [← hj, ← h]
            exact hi)⟩
        have hrestored : restored (c :: cs) ms = restored cs (ms ++ [c]) := by
          have hnone : cs.find? (fun d => d.id == c.id) = none := by
            rw [List.find?_eq_none]
            intro d hd hsame
            exact hc.1 (List.mem_map.2 ⟨d, hd, beq_iff_eq.1 hsame⟩)
          unfold restored
          rw [homitted, List.map_append, List.map_singleton, hnone, Option.getD_none, List.append_assoc]
          refine congrArg (· ++ _) (List.map_congr_left (fun m hmem => ?_))
          have hne : c.id ≠ m.id := fun h => hin (h ▸ List.mem_map_of_mem hmem)
          rw [List.find?_cons, beq_eq_false_iff_ne.2 hne]
        have ih := foldlM_restore_eq hc.2 hn (by rw [List.length_append]; exact hfull)
        rw [List.length_append, List.length_singleton] at ih
        rw [if_pos hfull, ok_bind, homitted, hrestored, List.length_cons,
          show ms.length + ((omitted cs (ms ++ [c])).length + 1) = ms.length + 1 + (omitted cs (ms ++ [c])).length by omega]
        exact ih
      · rw [if_neg hfull, homitted, List.length_cons, if_neg (by omega)]
        exact ⟨_, rfl⟩

/-! ## The report with the completed milestones back -/

def completedOf (prior : GovernorCheckpoint) : List MilestoneCheckpoint := prior.milestones.filter MilestoneCheckpoint.completed

def merged (prior next : GovernorCheckpoint) : GovernorCheckpoint :=
  { next with
    revision := satAdd prior.revision 1
    milestones := restored (completedOf prior) next.milestones }

def Overflows (prior next : GovernorCheckpoint) : Prop :=
  50 < next.milestones.length + (omitted (completedOf prior) next.milestones).length

def remaining (prior next : GovernorCheckpoint) : List MilestoneCheckpoint :=
  next.milestones.filter (fun m => !m.completed && !(ids (completedOf prior)).contains m.id)

/-- Nothing remains, or something remains that the status of the report can stand on. -/
def Repairable (prior next : GovernorCheckpoint) : Prop :=
  remaining prior next = [] ∨ ∃ m ∈ remaining prior next, (next.status = "progressing" ∧ m.status ≠ "blocked") ∨
    (next.status = "blocked" ∧ m.status = "blocked")

section Merge
variable {packet : Packet} {prior next : GovernorCheckpoint}

theorem ids_restored (cs ms : List MilestoneCheckpoint) : ids (restored cs ms) = ids ms ++ ids (omitted cs ms) := by
  unfold restored
  rw [ids, List.map_append]
  refine congrArg (· ++ _) (ids_map (fun m => ?_))
  cases hfind : cs.find? (fun c => c.id == m.id) with
  | none => rfl
  | some c =>
    have hid := List.find?_some hfind
    exact beq_iff_eq.1 hid

theorem restored_nodup {cs ms : List MilestoneCheckpoint} (hc : (ids cs).Nodup) (hm : (ids ms).Nodup) :
    (ids (restored cs ms)).Nodup := by
  rw [ids_restored, List.nodup_append]
  refine ⟨hm, ids_filter_nodup hc, fun i hi j hj h => ?_⟩
  obtain ⟨c, hin, hid⟩ := List.mem_map.1 hj
  have hout := (List.mem_filter.1 hin).2
  rw [hid, ← h, List.contains_iff_mem.2 hi] at hout
  cases hout

theorem mem_restored {cs ms : List MilestoneCheckpoint} {m : MilestoneCheckpoint} (hm : m ∈ restored cs ms) :
    m ∈ cs ∨ (m ∈ ms ∧ m.id ∉ ids cs) := by
  rcases List.mem_append.1 hm with hm | hm
  · obtain ⟨k, hk, rfl⟩ := List.mem_map.1 hm
    cases hfind : cs.find? (fun c => c.id == k.id) with
    | none =>
      refine Or.inr ⟨hk, fun hin => ?_⟩
      obtain ⟨c, hc, hid⟩ := List.mem_map.1 hin
      rw [Option.getD_none] at hid
      exact List.find?_eq_none.1 hfind c hc (beq_iff_eq.2 hid)
    | some c => exact Or.inl (List.mem_of_find?_eq_some hfind)
  · exact Or.inl (List.mem_of_mem_filter hm)

theorem mem_restored_of_out {cs ms : List MilestoneCheckpoint} {m : MilestoneCheckpoint} (hm : m ∈ ms) (hout : m.id ∉ ids cs) :
    m ∈ restored cs ms := by
  refine List.mem_append_left _ (List.mem_map.2 ⟨m, hm, ?_⟩)
  have hnone : cs.find? (fun c => c.id == m.id) = none := by
    rw [List.find?_eq_none]
    exact fun c hc hid => hout (List.mem_map.2 ⟨c, hc, beq_iff_eq.1 hid⟩)
  rw [hnone]
  rfl

theorem mem_remaining {m : MilestoneCheckpoint} :
    m ∈ remaining prior next ↔ m ∈ (merged prior next).milestones ∧ m.completed = false := by
  unfold remaining
  rw [List.mem_filter, Bool.and_eq_true, Bool.not_eq_true', Bool.not_eq_true', ← Bool.not_eq_true (List.contains _ _),
    List.contains_iff_mem]
  constructor
  · rintro ⟨hm, hopen, hout⟩
    exact ⟨mem_restored_of_out hm hout, hopen⟩
  · rintro ⟨hm, hopen⟩
    rcases mem_restored hm with hm | ⟨hm, hout⟩
    · rw [(List.mem_filter.1 hm).2] at hopen
      cases hopen
    · exact ⟨hm, hopen, hout⟩

theorem all_completed_iff : (merged prior next).milestones.all MilestoneCheckpoint.completed = true ↔
    remaining prior next = [] := by
  rw [List.all_eq_true]
  constructor
  · intro h
    refine List.eq_nil_iff_forall_not_mem.2 (fun m hm => ?_)
    obtain ⟨hm, hopen⟩ := mem_remaining.1 hm
    rw [h m hm] at hopen
    cases hopen
  · intro h m hm
    cases hopen : m.completed with
    | true => rfl
    | false =>
      have hin := mem_remaining.2 ⟨hm, hopen⟩
      rw [h] at hin
      cases hin

theorem merged_sound (hp : Sound packet prior) (hn : Sound packet next) (hroom : ¬ Overflows prior next) :
    Sound packet (merged prior next) := by
  have hlength : (merged prior next).milestones.length =
      next.milestones.length + (omitted (completedOf prior) next.milestones).length := by
    simp [merged, restored]
  refine ⟨?_, ?_, hn.workspace, fun m hm => ?_, restored_nodup (ids_filter_nodup hp.nodup) hn.nodup, fun p hp' => ?_⟩
  · have hleast := hn.least
    omega
  · unfold Overflows at hroom
    omega
  · rcases mem_restored hm with hm | ⟨hm, -⟩
    · exact hp.entries m (List.mem_of_mem_filter hm)
    · exact hn.entries m hm
  · have hids : ids (merged prior next).milestones = _ := ids_restored _ _
    rw [hids]
    exact List.mem_append_left _ (hn.planned p hp')

theorem reconcile_eq (hp : Sound packet prior) (hn : Sound packet next) :
    (Overflows prior next → ∃ e, reconcileGovernorCheckpoint prior next = .error e) ∧
    (¬ Overflows prior next → reconcileGovernorCheckpoint prior next = settle (merged prior next)) := by
  have hdistinct : (ids (completedOf prior)).Nodup := ids_filter_nodup hp.nodup
  have hmerge := foldlM_restore_eq hdistinct hn.nodup hn.most
  unfold Overflows reconcileGovernorCheckpoint
  constructor
  · intro hfull
    rw [if_neg (by omega)] at hmerge
    obtain ⟨e, he⟩ := hmerge
    unfold completedOf at he
    rw [he]
    exact ⟨e, rfl⟩
  · intro hroom
    rw [if_pos (by omega)] at hmerge
    unfold completedOf at hmerge
    rw [hmerge]
    rfl

end Merge

/-! ## What settling gives -/

section Settle
variable {packet : Packet}

theorem completed_iff {m : MilestoneCheckpoint} : m.completed = true ↔ m.status = "completed" := by
  unfold MilestoneCheckpoint.completed
  exact beq_iff_eq

theorem relabel_eq {ms : List MilestoneCheckpoint} {id label : String} : relabel id label ms =
    ms.map (fun m => { m with status := if m.completed then m.status else if m.id == id then label else "pending" }) := by
  unfold relabel
  refine List.map_congr_left (fun m _ => ?_)
  cases m.completed <;> rfl

theorem ids_relabel {ms : List MilestoneCheckpoint} {id label : String} : ids (relabel id label ms) = ids ms := by
  rw [relabel_eq]
  exact ids_map (fun _ => rfl)

theorem find?_id {ms : List MilestoneCheckpoint} (hn : (ids ms).Nodup) {m : MilestoneCheckpoint} (hm : m ∈ ms) :
    ms.find? (fun k => k.id == m.id) = some m := by
  have hsome : (ms.find? (fun k => k.id == m.id)).isSome = true := List.find?_isSome.2 ⟨m, hm, beq_iff_eq.2 rfl⟩
  obtain ⟨k, hk⟩ := Option.isSome_iff_exists.1 hsome
  have hid := List.find?_some hk
  rw [hk, List.inj_on_of_nodup_map hn (List.mem_of_find?_eq_some hk) hm (beq_iff_eq.1 hid)]

theorem countP_relabel {ms : List MilestoneCheckpoint} (hn : (ids ms).Nodup) {a : MilestoneCheckpoint} (ha : a ∈ ms)
    (hopen : a.completed = false) (label : String) (h₁ : label ≠ "completed") (h₂ : label ≠ "pending") :
    (relabel a.id label ms).countP (fun m => m.status == label) = 1 := by
  rw [relabel_eq, List.countP_map]
  have hsame : ms.countP ((fun m => m.status == label) ∘ fun m : MilestoneCheckpoint =>
      { m with status := if m.completed then m.status else if m.id == a.id then label else "pending" }) =
      ms.countP (fun m => m == a) := by
    refine List.countP_congr (fun m hm => ?_)
    simp only [Function.comp, beq_iff_eq]
    by_cases hid : m.id = a.id
    · obtain rfl := List.inj_on_of_nodup_map hn hm ha hid
      simp [hopen]
    · have hne : m ≠ a := fun h => hid (congrArg MilestoneCheckpoint.id h)
      cases hc : m.completed with
      | true =>
        rw [completed_iff] at hc
        simp [hc, hne, h₁.symm]
      | false => simp [hid, hne, h₂.symm]
  rw [hsame]
  exact List.count_eq_one_of_mem (List.Nodup.of_map _ hn) ha

theorem relabel_sound {n : GovernorCheckpoint} (h : Sound packet n) {id label : String} (hl : label ∈ milestoneStatuses)
    (current action blocker : Option String) :
    Sound packet { n with
      milestones := relabel id label n.milestones, currentMilestoneId := current, nextAction := action,
      blockedOn := blocker } := by
  refine ⟨?_, ?_, h.workspace, fun m hm => ?_, ?_, fun p hp => ?_⟩
  · show 3 ≤ (relabel id label n.milestones).length
    rw [relabel_eq, List.length_map]
    exact h.least
  · show (relabel id label n.milestones).length ≤ 50
    rw [relabel_eq, List.length_map]
    exact h.most
  · have hm : m ∈ relabel id label n.milestones := hm
    rw [relabel_eq] at hm
    obtain ⟨k, hk, rfl⟩ := List.mem_map.1 hm
    refine ⟨(h.entries k hk).1, ?_⟩
    show (if k.completed then k.status else if k.id == id then label else "pending") ∈ milestoneStatuses
    split
    · exact (h.entries k hk).2
    · split
      · exact hl
      · decide
  · show (ids (relabel id label n.milestones)).Nodup
    rw [ids_relabel]
    exact h.nodup
  · show p.id ∈ ids (relabel id label n.milestones)
    rw [ids_relabel]
    exact h.planned p hp

theorem named_some {n : GovernorCheckpoint} {a : MilestoneCheckpoint} (h : named n = some a) :
    a ∈ n.milestones ∧ a.completed = false ∧ n.currentMilestoneId = some a.id := by
  obtain ⟨id, hid, hfind⟩ := Option.bind_eq_some_iff.1 h
  have hfound := List.find?_some hfind
  rw [Bool.and_eq_true, beq_iff_eq, Bool.not_eq_true'] at hfound
  exact ⟨List.mem_of_find?_eq_some hfind, hfound.2, by rw [hid, hfound.1]⟩

theorem withStatus_some {n : GovernorCheckpoint} {status : String} {a : MilestoneCheckpoint}
    (h : withStatus n status = some a) : a ∈ n.milestones ∧ a.status = status := by
  have hfound := List.find?_some h
  exact ⟨List.mem_of_find?_eq_some h, beq_iff_eq.1 hfound⟩

theorem open_of_status {a : MilestoneCheckpoint} {status : String} (h : a.status = status) (hne : status ≠ "completed") :
    a.completed = false := by
  rw [← Bool.not_eq_true, completed_iff, h]
  exact hne

theorem validateCurrent_relabel {n : GovernorCheckpoint} (hn : (ids n.milestones).Nodup) {a : MilestoneCheckpoint}
    (ha : a ∈ n.milestones) (hopen : a.completed = false) {label : String}
    (hlabel : (if n.status = "blocked" then "blocked" else "in_progress") = label) (action blocker : Option String) :
    validateCurrent { n with
      milestones := relabel a.id label n.milestones, currentMilestoneId := some a.id, nextAction := action,
      blockedOn := blocker } = .ok () := by
  have hmem : a.id ∈ ids (relabel a.id label n.milestones) := by
    rw [ids_relabel]
    exact List.mem_map_of_mem ha
  have hfind : (relabel a.id label n.milestones).find? (fun m => m.id == a.id) = some { a with status := label } := by
    have hin : { a with status := label } ∈ relabel a.id label n.milestones := by
      rw [relabel_eq]
      exact List.mem_map.2 ⟨a, ha, by rw [hopen, if_neg Bool.false_ne_true, beq_self_eq_true, if_pos rfl]⟩
    exact find?_id (by rw [ids_relabel]; exact hn) hin
  unfold validateCurrent
  dsimp only
  rw [mem_ids.2 hmem, hlabel, hfind, Option.any_some, beq_self_eq_true]
  rfl

/-- **What reconciliation settles is valid**, if the report was sound before it. -/
theorem settle_valid {n c : GovernorCheckpoint} (hs : Sound packet n)
    (hstatus : n.status ∈ ["progressing", "blocked", "complete"])
    (hcomplete : n.status = "complete" → n.milestones.all MilestoneCheckpoint.completed = true)
    (hblocker : n.status = "blocked" → n.blockedOn.isSome = true) (h : settle n = .ok c) :
    validateGovernorCheckpoint packet c = .ok () := by
  unfold settle at h
  by_cases hall : n.milestones.all MilestoneCheckpoint.completed = true
  · rw [if_pos hall] at h
    cases h
    refine validate_iff.2 ⟨⟨hs.least, hs.most, hs.workspace, hs.entries, hs.nodup, hs.planned⟩, by simp, ?_, rfl⟩
    simp [validateStatus, hall, check]
  rw [if_neg hall] at h
  by_cases hp : n.status = "progressing"
  · rw [if_pos hp] at h
    obtain ⟨a, ha, h⟩ := bind_ok h
    cases h
    have hactive : a ∈ n.milestones ∧ a.completed = false := by
      rcases Option.or_eq_some_iff.1 (okOr_ok ha) with ha | ⟨-, ha⟩
      · rcases Option.or_eq_some_iff.1 ha with ha | ⟨-, ha⟩
        · exact ⟨(named_some ha).1, (named_some ha).2.1⟩
        · exact ⟨(withStatus_some ha).1, open_of_status (withStatus_some ha).2 (by decide)⟩
      · exact ⟨(withStatus_some ha).1, open_of_status (withStatus_some ha).2 (by decide)⟩
    refine validate_iff.2 ⟨relabel_sound hs (by decide) _ _ _, hstatus, ?_, validateCurrent_relabel hs.nodup hactive.1
      hactive.2 (by rw [hp]; decide) _ _⟩
    have hcount := countP_relabel hs.nodup hactive.1 hactive.2 "in_progress" (by decide) (by decide)
    unfold validateStatus countStatus
    dsimp only
    rw [if_pos hp, hcount, check_iff]
    by_cases hkeep : (n.currentMilestoneId == some a.id && n.nextAction.any (fun action => !action.isEmpty)) = true
    · rw [if_pos hkeep]
      rw [Bool.and_eq_true, Option.any_eq_true] at hkeep
      obtain ⟨-, action, haction, -⟩ := hkeep
      rw [haction]
      rfl
    · rw [if_neg hkeep]
      rfl
  rw [if_neg hp] at h
  by_cases hb : n.status = "blocked"
  · rw [if_pos hb] at h
    obtain ⟨a, ha, h⟩ := bind_ok h
    cases h
    have hblocked : a ∈ n.milestones ∧ a.completed = false := by
      rcases Option.or_eq_some_iff.1 (okOr_ok ha) with ha | ⟨-, ha⟩
      · exact ⟨(named_some ha).1, (named_some ha).2.1⟩
      · exact ⟨(withStatus_some ha).1, open_of_status (withStatus_some ha).2 (by decide)⟩
    refine validate_iff.2 ⟨relabel_sound hs (by decide) _ _ _, hstatus, ?_, validateCurrent_relabel hs.nodup hblocked.1
      hblocked.2 (by rw [hb]; decide) _ _⟩
    have hcount := countP_relabel hs.nodup hblocked.1 hblocked.2 "blocked" (by decide) (by decide)
    unfold validateStatus countStatus
    dsimp only
    rw [if_neg hp, if_pos hb, hcount, check_iff, hblocker hb]
    rfl
  · -- a complete report has every milestone completed
    simp only [List.mem_cons, List.not_mem_nil, or_false] at hstatus
    exact absurd (hcomplete ((hstatus.resolve_left hp).resolve_left hb)) hall

end Settle

/-! ## Reconciling a valid report -/

section Reconcile
variable {packet : Packet} {prior next : GovernorCheckpoint}

theorem current_status (hn : (ids next.milestones).Nodup) (h : validateCurrent next = .ok ()) {m : MilestoneCheckpoint}
    (hm : m ∈ next.milestones) (hcurrent : next.currentMilestoneId = some m.id) :
    m.status = if next.status = "blocked" then "blocked" else "in_progress" := by
  unfold validateCurrent at h
  rw [hcurrent] at h
  obtain ⟨-, h⟩ := check_bind_iff.1 h
  have h := check_iff.1 h
  rw [find?_id hn hm, Option.any_some, beq_iff_eq] at h
  exact h

theorem named_remaining (hnext : validateGovernorCheckpoint packet next = .ok ()) {a : MilestoneCheckpoint}
    (ha : named (merged prior next) = some a) :
    a ∈ remaining prior next ∧ a.status = if next.status = "blocked" then "blocked" else "in_progress" := by
  obtain ⟨hs, -, -, hcurrent⟩ := validate_iff.1 hnext
  obtain ⟨hm, hopen, hid⟩ := named_some ha
  have hin := mem_remaining.2 ⟨hm, hopen⟩
  exact ⟨hin, current_status hs.nodup hcurrent (List.mem_of_mem_filter hin) hid⟩

theorem withStatus_isSome {n : GovernorCheckpoint} {m : MilestoneCheckpoint} (hm : m ∈ n.milestones) :
    (withStatus n m.status).isSome = true :=
  List.find?_isSome.2 ⟨m, hm, beq_iff_eq.2 rfl⟩

theorem withStatus_remaining {status : String} {a : MilestoneCheckpoint} (ha : withStatus (merged prior next) status = some a)
    (hne : status ≠ "completed") : a ∈ remaining prior next ∧ a.status = status := by
  obtain ⟨hm, hst⟩ := withStatus_some ha
  exact ⟨mem_remaining.2 ⟨hm, open_of_status hst hne⟩, hst⟩

theorem settle_merged_iff (hnext : validateGovernorCheckpoint packet next = .ok ()) :
    (∃ c, settle (merged prior next) = .ok c) ↔ Repairable prior next := by
  obtain ⟨hs, hstatus, hvalid, -⟩ := validate_iff.1 hnext
  have hkeep : (merged prior next).status = next.status := rfl
  unfold settle Repairable
  rw [hkeep]
  by_cases hall : remaining prior next = []
  · rw [if_pos (all_completed_iff.2 hall)]
    exact ⟨fun _ => Or.inl hall, fun _ => ⟨_, rfl⟩⟩
  rw [if_neg (fun h => hall (all_completed_iff.1 h))]
  by_cases hp : next.status = "progressing"
  · have hother : ¬ next.status = "blocked" := by rw [hp]; decide
    rw [if_pos hp]
    constructor
    · rintro ⟨c, h⟩
      obtain ⟨a, ha, -⟩ := bind_ok h
      refine Or.inr ⟨a, ?_⟩
      -- what is named is in progress, as what is looked for otherwise is in progress or pending
      have hactive : a ∈ remaining prior next ∧ a.status ≠ "blocked" := by
        rcases Option.or_eq_some_iff.1 (okOr_ok ha) with ha | ⟨-, ha⟩
        · rcases Option.or_eq_some_iff.1 ha with ha | ⟨-, ha⟩
          · obtain ⟨hin, hst⟩ := named_remaining hnext ha
            rw [if_neg hother] at hst
            exact ⟨hin, by rw [hst]; decide⟩
          · obtain ⟨hin, hst⟩ := withStatus_remaining ha (by decide)
            exact ⟨hin, by rw [hst]; decide⟩
        · obtain ⟨hin, hst⟩ := withStatus_remaining ha (by decide)
          exact ⟨hin, by rw [hst]; decide⟩
      exact ⟨hactive.1, Or.inl ⟨hp, hactive.2⟩⟩
    · rintro (hnil | ⟨m, hm, hst⟩)
      · exact absurd hnil hall
      have hst : m.status ≠ "blocked" := (hst.resolve_right (fun h => hother h.1)).2
      obtain ⟨hmem, hopen⟩ := mem_remaining.1 hm
      have hlabel := (hs.entries m (List.mem_of_mem_filter hm)).2
      have hfound : (((named (merged prior next)).or (withStatus (merged prior next) "in_progress")).or
          (withStatus (merged prior next) "pending")).isSome = true := by
        have hsome := withStatus_isSome hmem
        rw [Option.isSome_or, Option.isSome_or, Bool.or_eq_true, Bool.or_eq_true]
        simp only [milestoneStatuses, List.mem_cons, List.not_mem_nil, or_false] at hlabel
        rcases hlabel with hlabel | hlabel | hlabel | hlabel
        · exact Or.inr (hlabel ▸ hsome)
        · rw [← Bool.not_eq_true, completed_iff] at hopen
          exact absurd hlabel hopen
        · exact Or.inl (Or.inr (hlabel ▸ hsome))
        · exact absurd hlabel hst
      obtain ⟨a, ha⟩ := Option.isSome_iff_exists.1 hfound
      unfold reconcileProgressing
      rw [ha]
      exact ⟨_, rfl⟩
  rw [if_neg hp]
  by_cases hb : next.status = "blocked"
  · rw [if_pos hb]
    constructor
    · rintro ⟨c, h⟩
      obtain ⟨a, ha, -⟩ := bind_ok h
      have hblocked : a ∈ remaining prior next ∧ a.status = "blocked" := by
        rcases Option.or_eq_some_iff.1 (okOr_ok ha) with ha | ⟨-, ha⟩
        · obtain ⟨hin, hst⟩ := named_remaining hnext ha
          rw [if_pos hb] at hst
          exact ⟨hin, hst⟩
        · exact withStatus_remaining ha (by decide)
      exact Or.inr ⟨a, hblocked.1, Or.inr ⟨hb, hblocked.2⟩⟩
    · rintro (hnil | ⟨m, hm, hst⟩)
      · exact absurd hnil hall
      have hst : m.status = "blocked" := (hst.resolve_left (fun h => hp h.1)).2
      have hfound : ((named (merged prior next)).or (withStatus (merged prior next) "blocked")).isSome = true := by
        rw [Option.isSome_or, Bool.or_eq_true]
        exact Or.inr (hst ▸ withStatus_isSome (mem_remaining.1 hm).1)
      obtain ⟨a, ha⟩ := Option.isSome_iff_exists.1 hfound
      unfold reconcileBlocked
      rw [ha]
      exact ⟨_, rfl⟩
  · -- every milestone of a complete report is completed, so nothing remains
    unfold validateStatus at hvalid
    rw [if_neg hp, if_neg hb, check_iff, Bool.and_eq_true, Bool.and_eq_true, Bool.and_eq_true, List.all_eq_true] at hvalid
    refine absurd (List.eq_nil_iff_forall_not_mem.2 (fun m hm => ?_)) hall
    have hdone := hvalid.1.1.1 m (List.mem_of_mem_filter hm)
    rw [(mem_remaining.1 hm).2] at hdone
    cases hdone

/-- **Reconciling a valid report with a valid checkpoint** gives a valid checkpoint or overflows, exactly when it overflows
or something remains that the status of the report can stand on. -/
theorem reconcile_repairs_iff (hprior : validateGovernorCheckpoint packet prior = .ok ())
    (hnext : validateGovernorCheckpoint packet next = .ok ()) :
    ((∀ c, reconcileGovernorCheckpoint prior next = .ok c → validateGovernorCheckpoint packet c = .ok ()) ∧
      ∀ e, reconcileGovernorCheckpoint prior next = .error e → Overflows prior next) ↔
    Overflows prior next ∨ Repairable prior next := by
  obtain ⟨hp, -, -, -⟩ := validate_iff.1 hprior
  obtain ⟨hn, hstatus, hvalid, -⟩ := validate_iff.1 hnext
  obtain ⟨hfull, hroom⟩ := reconcile_eq hp hn
  constructor
  · rintro ⟨-, herror⟩
    by_cases ho : Overflows prior next
    · exact Or.inl ho
    refine Or.inr ((settle_merged_iff hnext).1 ?_)
    cases hr : reconcileGovernorCheckpoint prior next with
    | error e => exact absurd (herror e hr) ho
    | ok c => exact ⟨c, (hroom ho).symm.trans hr⟩
  · intro h
    refine ⟨fun c hc => ?_, fun e he => ?_⟩
    · by_cases ho : Overflows prior next
      · obtain ⟨e, he⟩ := hfull ho
        rw [he] at hc
        cases hc
      · rw [hroom ho] at hc
        unfold validateStatus at hvalid
        refine settle_valid (merged_sound hp hn ho) hstatus (fun hcomplete => ?_) (fun hb => ?_) hc
        · have hcomplete : next.status = "complete" := hcomplete
          rw [hcomplete, if_neg (by decide), if_neg (by decide), check_iff, Bool.and_eq_true, Bool.and_eq_true,
            Bool.and_eq_true, List.all_eq_true] at hvalid
          refine all_completed_iff.2 (List.eq_nil_iff_forall_not_mem.2 (fun m hm => ?_))
          have hdone := hvalid.1.1.1 m (List.mem_of_mem_filter hm)
          rw [(mem_remaining.1 hm).2] at hdone
          cases hdone
        · have hb : next.status = "blocked" := hb
          rw [hb, if_neg (by decide), if_pos rfl, check_iff, Bool.and_eq_true] at hvalid
          exact hvalid.2
    · by_cases ho : Overflows prior next
      · exact ho
      · obtain ⟨c, hc⟩ := (settle_merged_iff hnext).2 (h.resolve_left ho)
        rw [hroom ho, hc] at he
        cases he

/-- The blocked slice stays where the active one was done before. -/
theorem reconcile_repairs_restated :
    (∀ c, reconcileGovernorCheckpoint (progressing 6 "M2" [slice "M1" "completed", slice "M2" "in_progress",
        slice "M3" "pending"])
      (progressing 1 "M1" [slice "M1" "in_progress", slice "M2" "pending", slice "M3" "blocked"]) = .ok c →
      validateGovernorCheckpoint (Plan.packet "T1" [] []) c = .ok ()) ∧
    ∀ e, reconcileGovernorCheckpoint (progressing 6 "M2" [slice "M1" "completed", slice "M2" "in_progress",
        slice "M3" "pending"])
      (progressing 1 "M1" [slice "M1" "in_progress", slice "M2" "pending", slice "M3" "blocked"]) = .error e →
      Overflows (progressing 6 "M2" [slice "M1" "completed", slice "M2" "in_progress", slice "M3" "pending"])
        (progressing 1 "M1" [slice "M1" "in_progress", slice "M2" "pending", slice "M3" "blocked"]) := by
  refine (reconcile_repairs_iff (by decide) (by decide)).2 (Or.inr (Or.inr ⟨slice "M2" "pending", ?_, Or.inl ⟨rfl, ?_⟩⟩))
  · decide
  · decide

/-- **Only blocked slices remain once the active one is completed again, and the report is refused.** -/
theorem restated_slice_refused :
    validateGovernorCheckpoint (Plan.packet "T1" [] [])
        (progressing 6 "M2" [slice "M1" "completed", slice "M2" "in_progress", slice "M3" "completed"]) = .ok () ∧
      validateGovernorCheckpoint (Plan.packet "T1" [] [])
        (progressing 1 "M1" [slice "M1" "in_progress", slice "M2" "blocked", slice "M3" "completed"]) = .ok () ∧
      reconcileGovernorCheckpoint
        (progressing 6 "M2" [slice "M1" "completed", slice "M2" "in_progress", slice "M3" "completed"])
        (progressing 1 "M1" [slice "M1" "in_progress", slice "M2" "blocked", slice "M3" "completed"]) =
        .error (.validation "progressing governor checkpoint has no remaining milestone") ∧
      ¬ Overflows (progressing 6 "M2" [slice "M1" "completed", slice "M2" "in_progress", slice "M3" "completed"])
        (progressing 1 "M1" [slice "M1" "in_progress", slice "M2" "blocked", slice "M3" "completed"]) := by
  refine ⟨by decide, by decide, by decide, ?_⟩
  unfold Overflows
  decide

end Reconcile
end Governor
end Bildr
