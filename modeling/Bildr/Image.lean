import Bildr.Store
/-!
# Image — tables of rows that are made from records

A row is often made from a record by one function that keeps the key: the record's fields stand in columns beside it.
`Table.image` is the table of the rows of a table of records.  Inserting, looking up and changing the rows of an image is
inserting, looking up and changing the records, so a call on the rows answers what the call on the records answers
(`transaction_image`).
-/
namespace Table

variable {α β κ : Type} {key : α → κ} {key' : β → κ}

def image (f : α → β) (hf : ∀ a, key' (f a) = key a) (t : Table key) : Table key' where
  rows := t.rows.map f
  nodup := by
    rw [List.map_map, show key' ∘ f = key from funext hf]
    exact t.nodup

variable {f : α → β} {hf : ∀ a, key' (f a) = key a}

@[simp] theorem rows_image (t : Table key) : (t.image f hf).rows = t.rows.map f := rfl

theorem image_empty : (∅ : Table key).image f hf = ∅ := ext_rows rfl

variable (f : α → β) (hf : ∀ a, key' (f a) = key a) [DecidableEq κ]

@[simp] theorem get_image (t : Table key) (k : κ) : (t.image f hf).get k = (t.get k).map f := by
  unfold get
  rw [rows_image, List.find?_map]
  congr 2
  funext a
  simp only [Function.comp, hf]

theorem insertRow_image (t : Table key) (a : α) :
    Bildr.insertRow (t.image f hf) (f a) = (Bildr.insertRow t a).map (image f hf) := by
  unfold Bildr.insertRow
  cases hi : t.insert a with
  | some u =>
    have hnone : key' (f a) ∉ (t.image f hf).rows.map key' := by
      intro hm
      rw [← get_isSome, get_image, hf, (insert_some hi).1] at hm
      cases hm
    cases hj : (t.image f hf).insert (f a) with
    | none => exact absurd (get_isSome.1 (insert_none.1 hj)) hnone
    | some v =>
      have hv : v = u.image f hf := by
        apply ext_rows
        rw [(insert_some hj).2, rows_image, rows_image, (insert_some hi).2, List.map_append]
        rfl
      rw [hv]
      rfl
  | none =>
    have hsome := insert_none.1 hi
    cases hj : (t.image f hf).insert (f a) with
    | none => rfl
    | some v =>
      have hnone := (insert_some hj).1
      rw [hf, get_image] at hnone
      cases hg : t.get (key a) with
      | none =>
        rw [hg] at hsome
        cases hsome
      | some b =>
        rw [hg] at hnone
        cases hnone

/-- A statement on the row of a key that writes what the record's change writes. -/
theorem update_image (t : Table key) (k : κ) (g : α → α) (hg : ∀ r, key (g r) = key r) {p : β → Bool} {s : β → β}
    (hs : ∀ r, key' (s r) = key' r) (hp : ∀ r ∈ t.rows, p (f r) = true ↔ key r = k)
    (hset : ∀ r, t.get k = some r → s (f r) = f (g r)) :
    (t.image f hf).update p s hs = (t.update (fun r => key r == k) g hg).image f hf := by
  apply ext_rows
  show ((t.image f hf).rows.map _) = ((t.rows.map _).map f)
  rw [rows_image, List.map_map, List.map_map]
  refine List.map_congr_left (fun r hr => ?_)
  simp only [Function.comp]
  by_cases hk : key r = k
  · rw [if_pos ((hp r hr).2 hk), if_pos (by simpa using hk), hset r (get_some.2 ⟨hr, hk⟩)]
  · rw [if_neg (fun hpr => hk ((hp r hr).1 hpr)), if_neg (by simpa using hk)]

/-- It changes one row. -/
theorem countP_image (t : Table key) (k : κ) {a : α} (h : t.get k = some a) {p : β → Bool}
    (hp : ∀ r ∈ t.rows, p (f r) = true ↔ key r = k) : (t.image f hf).rows.countP p = 1 := by
  rw [rows_image, List.countP_map]
  have hcount : t.rows.countP (p ∘ f) = (t.rows.map key).count k := by
    rw [List.count, List.countP_map]
    refine List.countP_congr (fun r hr => ?_)
    simp only [Function.comp, hp r hr, beq_iff_eq]
  rw [hcount]
  exact List.count_eq_one_of_mem t.nodup (List.mem_map.2 ⟨a, mem_of_get h, key_of_get h⟩)

end Table

namespace Bildr

/-- **A transaction on rows** does what the transaction on records does. -/
theorem transaction_image {σ τ α : Type} (f : σ → τ) {body : σ → Except StoreError (α × σ)}
    {rowBody : τ → Except StoreError (α × τ)} {s : σ}
    (h : rowBody (f s) = (body s).map (fun q => (q.1, f q.2))) :
    transaction rowBody (f s) = ((transaction body s).1, f (transaction body s).2) := by
  unfold transaction
  rw [h]
  cases body s with
  | error e => rfl
  | ok q => rfl

end Bildr
