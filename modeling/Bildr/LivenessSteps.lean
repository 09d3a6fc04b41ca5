import Bildr.LivenessCalls
/-!
# LivenessSteps — what a call can do to the liveness tables

A call that succeeds leaves the episodes alone (`Quiet`), opens one (`Opened`), records one observation (`Observed`) or
counts one receipt (`Counted`).  Everything said about liveness rests on these four.
-/
namespace Bildr
namespace Control

structure Openable (w : Wire) (t : ControlTables) (e : LivenessEpisode) : Prop where
  valid : e.validate w = .ok ()
  attempt : e.attemptId.isSome = true
  version : e.version = 1
  nonterminal : e.state ≠ .terminal
  fresh : t.episodes.get e.episodeId = none
  alone : activeEpisode t e.attemptId = none

structure Opened (w : Wire) (t t' : ControlTables) (e : LivenessEpisode) : Prop extends Openable w t e where
  rows : t'.episodes.rows = t.episodes.rows ++ [rowOfEpisode e]
  observations : t'.observations = t.observations
  receipts : t'.receipts = t.receipts

structure Observed (w : Wire) (t t' : ControlTables) (row : LivenessRow) (o : LivenessObservation) : Prop where
  found : t.episodes.get o.episodeId = some row
  validObservation : o.validate w = .ok ()
  valid : row.payload.validate w = .ok ()
  column : row.version = row.payload.version
  nonterminal : row.payload.state ≠ .terminal
  started : row.payload.openedAtMs ≤ o.observedAtMs
  unseen : findObservation t o = none
  next : (observed w row.payload o).validate w = .ok ()
  episodes : t'.episodes.rows = t.episodes.rows.map (fun r => if r.id == o.episodeId
    then r.revise (observed w row.payload o) else r)
  observations : t'.observations.rows = t.observations.rows ++ [o]
  receipts : t'.receipts = t.receipts

structure Counted (w : Wire) (t t' : ControlTables) (row : LivenessRow) (r : InterventionReceipt) : Prop where
  found : t.episodes.get r.episodeId = some row
  validReceipt : r.validate w = .ok ()
  valid : row.payload.validate w = .ok ()
  column : row.version = row.payload.version
  target : row.payload.version = r.targetVersion
  fits : fitsI64 (row.payload.version + 1) = true
  nonterminal : row.payload.state ≠ .terminal
  counter : row.payload.interventionCount < u32Max
  unseen : findReceipt t r = none
  next : (intervened w row.payload r).validate w = .ok ()
  episodes : t'.episodes.rows = t.episodes.rows.map (fun q => if q.id == r.episodeId
    then q.count (intervened w row.payload r) else q)
  observations : t'.observations = t.observations
  receipts : t'.receipts.rows = t.receipts.rows ++ [r]

def Records (t t' : ControlTables) (link : Except StoreError CorrelationLink) : Prop :=
  ∃ l, link = .ok l ∧ recordCorrelationLinkInTransaction t.links l = .ok t'.links

/-! ## Small checks -/

theorem isOk_iff {ε : Type} {x : Except ε Unit} : x.isOk = true ↔ x = .ok () :=
  ⟨isOk_unit, fun h => by rw [h]; rfl⟩

theorem readEpisode_ok {w : Wire} {row : LivenessRow} {e : LivenessEpisode} :
    readEpisode w row = .ok e ↔ row.payload.validate w = .ok () ∧ e = row.payload := by
  unfold readEpisode
  rw [ensure_bind_ok, isOk_iff]
  simp [eq_comm]

theorem checkedObservation_ok {w : Wire} {o o' : LivenessObservation} :
    checkedObservation w o = .ok o' ↔ o.validate w = .ok () ∧ o' = o := by
  unfold checkedObservation
  rw [ensure_bind_ok, isOk_iff]
  simp [eq_comm]

theorem checkedReceipt_ok {w : Wire} {r r' : InterventionReceipt} :
    checkedReceipt w r = .ok r' ↔ r.validate w = .ok () ∧ r' = r := by
  unfold checkedReceipt
  rw [ensure_bind_ok, isOk_iff]
  simp [eq_comm]

theorem toI64_ok {n : Nat} {field : String} {v : Int} : toI64 n field = .ok v ↔ fitsI64 n = true ∧ v = n := by
  unfold toI64
  split
  · rename_i h
    simp [h, eq_comm]
  · rename_i h
    simp [h]

theorem casEpisode_ok {t t' : ControlTables} {id why : String} {expected : Int} {f : LivenessRow → LivenessRow}
    {hf : ∀ r, (f r).id = r.id} :
    casEpisode t id expected f hf why = .ok t' ↔
      (t.episodes.get id).any (fun r => r.version == expected) = true ∧
        t' = { t with episodes := t.episodes.update (fun r => r.id == id) f hf } := by
  unfold casEpisode
  rw [ensure_bind_ok, pure_ok, Except.ok.injEq]
  exact and_congr_right (fun _ => eq_comm)

/-! ## What each body does -/

theorem openEpisodeBody_ok {w : Wire} {e e' : LivenessEpisode} {t t' : ControlTables}
    (h : openEpisodeBody w e t = .ok (e', t')) : (t' = t ∨ Opened w t t' e) ∧ Calm t t' ∧ t'.links = t.links := by
  unfold openEpisodeBody at h
  obtain ⟨hv, h⟩ := bind_unit_ok.1 h
  obtain ⟨hids, h⟩ := ensure_bind_ok.1 h
  obtain ⟨hnew, h⟩ := ensure_bind_ok.1 h
  simp only [Bool.and_eq_true, beq_iff_eq, Bool.not_eq_true', decide_eq_false_iff_not] at hids hnew
  cases hg : t.episodes.get e.episodeId with
  | some row =>
    simp only [hg] at h
    obtain ⟨existing, -, h⟩ := bind_ok h
    obtain ⟨-, h⟩ := ensure_bind_ok.1 h
    cases h
    exact ⟨Or.inl rfl, Calm.refl t, rfl⟩
  | none =>
    simp only [hg] at h
    cases ha : activeEpisode t e.attemptId with
    | some row =>
      simp only [ha] at h
      obtain ⟨existing, -, h⟩ := bind_ok h
      cases h
    | none =>
      simp only [ha] at h
      obtain ⟨episodes, hi, h⟩ := bind_ok h
      cases h
      exact ⟨Or.inr ⟨⟨hv, hids.2, hnew.1, hnew.2, hg, ha⟩, (insertRow_ok_iff.1 hi).2, rfl, rfl⟩,
        ⟨rfl, rfl, rfl⟩, rfl⟩

theorem observeEpisode_ok {w : Wire} {o : LivenessObservation} {expected : Int} {t t' : ControlTables}
    {e : LivenessEpisode} (hv : o.validate w = .ok ()) (hu : findObservation t o = none)
    (h : observeEpisode w o expected t = .ok (e, t')) :
    ∃ row, Observed w t t' row o ∧ e = observed w row.payload o ∧ (row.payload.version : Int) = expected ∧
      t'.links = t.links ∧ Calm t t' := by
  unfold observeEpisode at h
  obtain ⟨row, hrow, h⟩ := bind_ok h
  obtain ⟨e₀, hread, h⟩ := bind_ok h
  obtain ⟨hvalid, rfl⟩ := readEpisode_ok.1 hread
  obtain ⟨version, hversion, h⟩ := bind_ok h
  obtain ⟨-, rfl⟩ := toI64_ok.1 hversion
  obtain ⟨hexp, h⟩ := ensure_bind_ok.1 h
  obtain ⟨hterm, h⟩ := ensure_bind_ok.1 h
  obtain ⟨hstart, h⟩ := ensure_bind_ok.1 h
  obtain ⟨-, h⟩ := ensure_bind_ok.1 h
  obtain ⟨hnext, h⟩ := bind_unit_ok.1 h
  obtain ⟨_, -, h⟩ := bind_ok h
  obtain ⟨t₁, hcas, h⟩ := bind_ok h
  obtain ⟨hany, rfl⟩ := casEpisode_ok.1 hcas
  obtain ⟨_, -, h⟩ := bind_ok h
  obtain ⟨observations, hi, h⟩ := bind_ok h
  cases h
  have hget := okOr_ok hrow
  simp only [beq_iff_eq, Bool.not_eq_true', decide_eq_false_iff_not, decide_eq_true_eq] at hexp hterm hstart
  rw [hget] at hany
  simp only [Option.any_some, beq_iff_eq] at hany
  exact ⟨row, ⟨hget, hv, hvalid, hany.trans hexp.symm, hterm, hstart, hu, hnext, rfl, (insertRow_ok_iff.1 hi).2, rfl⟩,
    rfl, hexp, rfl, rfl, rfl, rfl⟩

theorem observationBody_ok {w : Wire} {id : String} {v : Nat} {o : LivenessObservation} {e : LivenessEpisode}
    {t t' : ControlTables} (h : observationBody w id v o t = .ok (e, t')) :
    (Quiet t t' ∨ ∃ row, Observed w t t' row o ∧ row.payload.version = v) ∧ Calm t t' ∧
      Records t t' (livenessObservationCorrelationLink w o) ∧ o ∈ t'.observations.rows := by
  unfold observationBody at h
  obtain ⟨hv, h⟩ := bind_unit_ok.1 h
  obtain ⟨-, h⟩ := ensure_bind_ok.1 h
  obtain ⟨link, hlink, h⟩ := bind_ok h
  obtain ⟨expected, hexp, h⟩ := bind_ok h
  obtain ⟨-, rfl⟩ := toI64_ok.1 hexp
  cases hf : findObservation t o with
  | some row =>
    simp only [hf] at h
    obtain ⟨existing, hread, h⟩ := bind_ok h
    obtain ⟨hsame, h⟩ := ensure_bind_ok.1 h
    obtain ⟨found, -, h⟩ := bind_ok h
    obtain ⟨e', -, h⟩ := bind_ok h
    obtain ⟨links, hl, h⟩ := bind_ok h
    cases h
    obtain ⟨-, rfl⟩ := checkedObservation_ok.1 hread
    obtain rfl : existing = o := by simpa using hsame
    exact ⟨Or.inl ⟨rfl, rfl, rfl⟩, ⟨rfl, rfl, rfl⟩, ⟨link, hlink, hl⟩, List.mem_of_find?_eq_some hf⟩
  | none =>
    simp only [hf] at h
    obtain ⟨⟨e', t₁⟩, hobs, h⟩ := bind_ok h
    obtain ⟨links, hl, h⟩ := bind_ok h
    cases h
    obtain ⟨row, ho, -, hversion, hkeep, hcalm⟩ := observeEpisode_ok hv hf hobs
    refine ⟨Or.inr ⟨row, { ho with }, ?_⟩, { hcalm with }, ⟨link, hlink, ?_⟩, ?_⟩
    · exact_mod_cast hversion
    · rw [← hkeep]
      exact hl
    · show o ∈ t₁.observations.rows
      rw [ho.observations]
      simp

theorem replayReceipt_ok {w : Wire} {r existing : InterventionReceipt} {link : CorrelationLink} {why : String}
    {e : LivenessEpisode} {t t' : ControlTables} (h : replayReceipt w r existing link why t = .ok (e, t')) :
    existing = r ∧ (∃ row, t.episodes.get r.episodeId = some row ∧ e = row.payload) ∧
      ∃ links, recordCorrelationLinkInTransaction t.links link = .ok links ∧ t' = { t with links := links } := by
  unfold replayReceipt at h
  obtain ⟨r', hr, h⟩ := bind_ok h
  obtain ⟨heq, h⟩ := ensure_bind_ok.1 h
  obtain ⟨row, hrow, h⟩ := bind_ok h
  obtain ⟨e', he, h⟩ := bind_ok h
  obtain ⟨links, hl, h⟩ := bind_ok h
  cases h
  obtain ⟨-, rfl⟩ := checkedReceipt_ok.1 hr
  obtain ⟨-, rfl⟩ := readEpisode_ok.1 he
  exact ⟨by simpa using heq, ⟨row, okOr_ok hrow, rfl⟩, links, hl, rfl⟩

theorem interveneEpisode_ok {w : Wire} {r : InterventionReceipt} {t t' : ControlTables} {e : LivenessEpisode}
    (hv : r.validate w = .ok ()) (hu : findReceipt t r = none) (h : interveneEpisode w r t = .ok (e, t')) :
    ∃ row, Counted w t t' row r ∧ e = intervened w row.payload r ∧ t'.links = t.links ∧
      t'.humanActions = t.humanActions ∧ Calm t t' := by
  unfold interveneEpisode at h
  obtain ⟨row, hrow, h⟩ := bind_ok h
  obtain ⟨e₀, hread, h⟩ := bind_ok h
  obtain ⟨hvalid, rfl⟩ := readEpisode_ok.1 hread
  obtain ⟨htarget, h⟩ := ensure_bind_ok.1 h
  obtain ⟨hterm, h⟩ := ensure_bind_ok.1 h
  obtain ⟨-, h⟩ := ensure_bind_ok.1 h
  obtain ⟨hcount, h⟩ := ensure_bind_ok.1 h
  obtain ⟨-, h⟩ := ensure_bind_ok.1 h
  obtain ⟨hnext, h⟩ := bind_unit_ok.1 h
  obtain ⟨_, hfits, h⟩ := bind_ok h
  obtain ⟨expected, hexp, h⟩ := bind_ok h
  obtain ⟨-, rfl⟩ := toI64_ok.1 hexp
  obtain ⟨t₁, hcas, h⟩ := bind_ok h
  obtain ⟨hany, rfl⟩ := casEpisode_ok.1 hcas
  obtain ⟨receipts, hi, h⟩ := bind_ok h
  cases h
  have hget := okOr_ok hrow
  simp only [beq_iff_eq, Bool.not_eq_true', decide_eq_false_iff_not, decide_eq_true_eq] at htarget hterm hcount
  rw [hget] at hany
  simp only [Option.any_some, beq_iff_eq] at hany
  exact ⟨row, ⟨hget, hv, hvalid, by rw [hany, htarget], htarget, (toI64_ok.1 hfits).1, hterm, hcount, hu, hnext, rfl, rfl,
    (insertRow_ok_iff.1 hi).2⟩, rfl, rfl, rfl, rfl, rfl, rfl⟩

theorem receipt_ok {w : Wire} {r : InterventionReceipt} {e : LivenessEpisode} {t t' : ControlTables}
    (h : recordInterventionReceiptInTransaction w r t = .ok (e, t')) :
    (Quiet t t' ∨ ∃ row, Counted w t t' row r ∧ e = intervened w row.payload r) ∧ Calm t t' ∧
      Records t t' (interventionCorrelationLink w r) ∧ r ∈ t'.receipts.rows ∧ t'.humanActions = t.humanActions := by
  unfold recordInterventionReceiptInTransaction at h
  obtain ⟨hv, h⟩ := bind_unit_ok.1 h
  obtain ⟨link, hlink, h⟩ := bind_ok h
  cases hg : t.receipts.get r.interventionId with
  | some existing =>
    simp only [hg] at h
    obtain ⟨rfl, -, links, hl, rfl⟩ := replayReceipt_ok h
    exact ⟨Or.inl ⟨rfl, rfl, rfl⟩, ⟨rfl, rfl, rfl⟩, ⟨link, hlink, hl⟩, Table.mem_of_get hg, rfl⟩
  | none =>
    cases hf : findReceipt t r with
    | some existing =>
      simp only [hg, hf] at h
      obtain ⟨rfl, -, links, hl, rfl⟩ := replayReceipt_ok h
      exact ⟨Or.inl ⟨rfl, rfl, rfl⟩, ⟨rfl, rfl, rfl⟩, ⟨link, hlink, hl⟩, List.mem_of_find?_eq_some hf, rfl⟩
    | none =>
      simp only [hg, hf] at h
      obtain ⟨⟨e', t₁⟩, hi, h⟩ := bind_ok h
      obtain ⟨links, hl, h⟩ := bind_ok h
      cases h
      obtain ⟨row, hc, he, hkeep, hactions, hcalm⟩ := interveneEpisode_ok hv hf hi
      refine ⟨Or.inr ⟨row, { hc with }, he⟩, { hcalm with }, ⟨link, hlink, hkeep ▸ hl⟩, ?_, hactions⟩
      show r ∈ t₁.receipts.rows
      rw [hc.receipts]
      simp

theorem Counted.of_quiet {w : Wire} {t u t' : ControlTables} {row : LivenessRow} {r : InterventionReceipt}
    (h : Counted w u t' row r) (hq : Quiet t u) : Counted w t t' row r where
  found := hq.episodes ▸ h.found
  validReceipt := h.validReceipt
  valid := h.valid
  column := h.column
  target := h.target
  fits := h.fits
  nonterminal := h.nonterminal
  counter := h.counter
  unseen := by
    have := h.unseen
    unfold findReceipt at this ⊢
    rwa [hq.receipts] at this
  next := h.next
  episodes := hq.episodes ▸ h.episodes
  observations := h.observations.trans hq.observations
  receipts := hq.receipts ▸ h.receipts

/-- **Pausing** changes the liveness tables as recording a receipt does. -/
theorem pauseBody_ok {w : Wire} {q : Intervention} {now : Int} {e : LivenessEpisode} {t t' : ControlTables}
    (h : pauseBody w q now t = .ok (e, t')) :
    (Quiet t t' ∨ ∃ row r, Counted w t t' row r) ∧ Calm t t' ∧
      ∃ r, Records t t' (interventionCorrelationLink w r) ∧ r ∈ t'.receipts.rows := by
  unfold pauseBody at h
  cases hg : t.receipts.get (interventionIdOf w pausePolicy q) with
  | some r =>
    simp only [hg] at h
    obtain ⟨r', hr, h⟩ := bind_ok h
    obtain ⟨-, h⟩ := ensure_bind_ok.1 h
    obtain ⟨hq | ⟨row, hc, -⟩, hcalm, hlink, hstored, -⟩ := receipt_ok h
    · exact ⟨Or.inl hq, hcalm, r', hlink, hstored⟩
    · exact ⟨Or.inr ⟨row, r', hc⟩, hcalm, r', hlink, hstored⟩
  | none =>
    simp only [hg] at h
    obtain ⟨row, -, h⟩ := bind_ok h
    obtain ⟨e₀, -, h⟩ := bind_ok h
    obtain ⟨-, h⟩ := ensure_bind_ok.1 h
    obtain ⟨-, h⟩ := ensure_bind_ok.1 h
    obtain ⟨runId, -, h⟩ := bind_ok h
    obtain ⟨run, -, h⟩ := bind_ok h
    obtain ⟨r, -, h⟩ := bind_ok h
    obtain ⟨humanActions, -, h⟩ := bind_ok h
    obtain ⟨hq | ⟨row', hc, -⟩, hcalm, hlink, hstored, -⟩ := receipt_ok h
    · exact ⟨Or.inl { hq with }, { hcalm with }, r, hlink, hstored⟩
    · exact ⟨Or.inr ⟨row', r, hc.of_quiet ⟨rfl, rfl, rfl⟩⟩, { hcalm with }, r, hlink, hstored⟩

end Control
end Bildr
