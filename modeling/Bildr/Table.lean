import Mathlib.Data.List.Induction
import Mathlib.Data.List.Nodup
/-!
# Table — rows under a primary key

A table is a list of rows together with the fact that no two rows share a key, so a duplicate row cannot be built.
`insert` refuses a taken key, `update` and `delete` are the statements with a `WHERE` clause, `get` is the lookup by
key.  A table of a program is an instance: the row type and the column its key is.
-/

structure Table {α κ : Type} (key : α → κ) where
  rows : List α
  nodup : (rows.map key).Nodup

namespace Table

variable {α κ : Type} {key : α → κ}

def empty : Table key := ⟨[], List.nodup_nil⟩

instance : EmptyCollection (Table key) := ⟨empty⟩

theorem ext_rows {t u : Table key} (h : t.rows = u.rows) : t = u := by
  cases t; cases u; cases h; rfl

/-- A row list mapped by a function that keeps the key keeps the keys. -/
theorem map_key_map (f : α → α) (hf : ∀ r, key (f r) = key r) (rows : List α) :
    (rows.map f).map key = rows.map key := by
  rw [List.map_map]
  exact List.map_congr_left (fun r _ => hf r)

/-- `UPDATE … SET f WHERE p`. -/
def update (t : Table key) (p : α → Bool) (f : α → α) (hf : ∀ r, key (f r) = key r) : Table key where
  rows := t.rows.map (fun r => if p r then f r else r)
  nodup := by
    rw [map_key_map _ (fun r => by split <;> simp [hf])]
    exact t.nodup

/-- `DELETE … WHERE p`. -/
def delete (t : Table key) (p : α → Bool) : Table key where
  rows := t.rows.filter (fun r => !p r)
  nodup := t.nodup.sublist (List.filter_sublist.map key)

@[simp] theorem mem_update {t : Table key} {p : α → Bool} {f : α → α} {hf} {r : α} :
    r ∈ (t.update p f hf).rows ↔ ∃ q ∈ t.rows, r = if p q then f q else q := by
  unfold update
  rw [List.mem_map]
  exact ⟨fun ⟨q, hq, h⟩ => ⟨q, hq, h.symm⟩, fun ⟨q, hq, h⟩ => ⟨q, hq, h.symm⟩⟩

@[simp] theorem mem_delete {t : Table key} {p : α → Bool} {r : α} :
    r ∈ (t.delete p).rows ↔ r ∈ t.rows ∧ p r = false := by
  simp [delete]

variable [DecidableEq κ]

def get (t : Table key) (k : κ) : Option α := t.rows.find? (fun r => key r == k)

/-- `INSERT`, refused when the key is taken. -/
def insert (t : Table key) (r : α) : Option (Table key) :=
  if h : key r ∈ t.rows.map key then none
  else some ⟨t.rows ++ [r], by
    rw [List.map_append]
    exact List.nodup_append'.2 ⟨t.nodup, List.nodup_singleton _, by simpa using h⟩⟩

theorem get_some {t : Table key} {k : κ} {r : α} : t.get k = some r ↔ r ∈ t.rows ∧ key r = k := by
  refine ⟨fun h => ⟨List.mem_of_find?_eq_some h, by simpa using List.find?_some h⟩, ?_⟩
  rintro ⟨hr, rfl⟩
  cases hg : t.get (key r) with
  | none => exact absurd (List.find?_eq_none.1 hg r hr) (by simp)
  | some r' =>
    have hk : key r' = key r := by simpa using List.find?_some hg
    rw [List.inj_on_of_nodup_map t.nodup (List.mem_of_find?_eq_some hg) hr hk]

theorem get_none {t : Table key} {k : κ} : t.get k = none ↔ ∀ r ∈ t.rows, key r ≠ k := by
  unfold get
  simp [List.find?_eq_none]

theorem get_isSome {t : Table key} {k : κ} : (t.get k).isSome = true ↔ k ∈ t.rows.map key := by
  rw [Option.isSome_iff_exists, List.mem_map]
  exact exists_congr (fun r => get_some)

theorem get_of_mem {t : Table key} {r : α} (h : r ∈ t.rows) : t.get (key r) = some r := get_some.2 ⟨h, rfl⟩

theorem key_of_get {t : Table key} {k : κ} {r : α} (h : t.get k = some r) : key r = k := (get_some.1 h).2

theorem mem_of_get {t : Table key} {k : κ} {r : α} (h : t.get k = some r) : r ∈ t.rows := (get_some.1 h).1

/-! ## What an insert does -/

theorem insert_none {t : Table key} {r : α} : t.insert r = none ↔ (t.get (key r)).isSome = true := by
  unfold insert
  split
  · rename_i h
    obtain ⟨q, hq, hqr⟩ := List.mem_map.1 h
    simp [get_some.2 ⟨hq, hqr⟩]
  · rename_i h
    have : t.get (key r) = none := get_none.2 (fun q hq hqr => h (List.mem_map.2 ⟨q, hq, hqr⟩))
    simp [this]

theorem insert_some {t u : Table key} {r : α} (h : t.insert r = some u) :
    t.get (key r) = none ∧ u.rows = t.rows ++ [r] := by
  unfold insert at h
  split at h
  · cases h
  · rename_i hn
    simp only [Option.some.injEq] at h
    refine ⟨get_none.2 (fun q hq hqr => hn (List.mem_map.2 ⟨q, hq, hqr⟩)), ?_⟩
    rw [← h]

theorem insert_isSome {t : Table key} {r : α} (h : t.get (key r) = none) : ∃ u, t.insert r = some u := by
  cases hi : t.insert r with
  | some u => exact ⟨u, rfl⟩
  | none => rw [insert_none, h] at hi; cases hi

theorem mem_insert {t u : Table key} {r : α} (h : t.insert r = some u) {q : α} :
    q ∈ u.rows ↔ q ∈ t.rows ∨ q = r := by
  rw [(insert_some h).2]; simp

/-- A lookup that found a row finds it among more rows. -/
theorem get_extends {t u : Table key} (h : t.rows <+: u.rows) {k : κ} {r : α} (hg : t.get k = some r) :
    u.get k = some r := by
  obtain ⟨hr, hk⟩ := get_some.1 hg
  exact get_some.2 ⟨h.subset hr, hk⟩

/-! ## What each statement does to a lookup -/

theorem get_insert {t u : Table key} {r : α} (h : t.insert r = some u) (k : κ) :
    u.get k = if k = key r then some r else t.get k := by
  split
  · rename_i hk
    exact get_some.2 ⟨(mem_insert h).2 (Or.inr rfl), hk.symm⟩
  · rename_i hk
    unfold get
    rw [(insert_some h).2, List.find?_append]
    have : [r].find? (fun q => key q == k) = none := by simp [Ne.symm hk]
    rw [this, Option.or_none]

@[simp] theorem get_update (t : Table key) (p : α → Bool) (f : α → α) (hf) (k : κ) :
    (t.update p f hf).get k = (t.get k).map (fun r => if p r then f r else r) := by
  cases hg : t.get k with
  | none =>
    rw [Option.map_none, get_none]
    intro r hr
    obtain ⟨q, hq, rfl⟩ := mem_update.1 hr
    have hqk := get_none.1 hg q hq
    split
    · rw [hf]; exact hqk
    · exact hqk
  | some r =>
    obtain ⟨hr, rfl⟩ := get_some.1 hg
    rw [Option.map_some, get_some]
    exact ⟨mem_update.2 ⟨r, hr, rfl⟩, by split <;> simp [hf]⟩

@[simp] theorem get_delete (t : Table key) (p : α → Bool) (k : κ) :
    (t.delete p).get k = (t.get k).filter (fun r => !p r) := by
  cases hg : t.get k with
  | none =>
    rw [Option.filter_none, get_none]
    intro r hr
    exact get_none.1 hg r (mem_delete.1 hr).1
  | some r =>
    obtain ⟨hr, rfl⟩ := get_some.1 hg
    cases hp : p r with
    | false => rw [Option.filter_some_pos (by simp [hp]), get_some]; exact ⟨mem_delete.2 ⟨hr, hp⟩, rfl⟩
    | true =>
      rw [Option.filter_some_neg (by simp [hp]), get_none]
      intro q hq hqr
      obtain ⟨hq, hpq⟩ := mem_delete.1 hq
      rw [List.inj_on_of_nodup_map t.nodup hq hr hqr, hp] at hpq
      cases hpq

/-- A row after an update of the row under a key is that row, updated, or another one. -/
theorem mem_map_key {t : Table key} {k : κ} {f : α → α} {row r : α} (hg : t.get k = some row)
    (h : r ∈ t.rows.map (fun q => if key q == k then f q else q)) : r = f row ∨ (r ∈ t.rows ∧ key r ≠ k) := by
  obtain ⟨q, hq, rfl⟩ := List.mem_map.1 h
  by_cases hk : key q = k
  · rw [if_pos (by simpa using hk)]
    have : some q = some row := by rw [← hg, ← hk, get_of_mem hq]
    rw [Option.some.inj this]
    exact Or.inl rfl
  · rw [if_neg (by simpa using hk)]
    exact Or.inr ⟨hq, hk⟩

/-- What an update of one row changes in a column. -/
theorem map_update_key {γ : Type} (g : α → γ) (t : Table key) (k : κ) (f : α → α) (hf) :
    (t.update (fun r => key r == k) f hf).rows.map g = t.rows.map g ↔ ∀ r, t.get k = some r → g (f r) = g r := by
  simp only [update, List.map_map, List.map_inj_left, Function.comp]
  refine ⟨fun h r hr => ?_, fun h r hr => ?_⟩
  · obtain ⟨hmem, rfl⟩ := get_some.1 hr
    simpa using h r hmem
  · by_cases hk : key r = k
    · rw [if_pos (by simpa using hk)]
      exact h r (get_some.2 ⟨hr, hk⟩)
    · rw [if_neg (by simpa using hk)]

theorem rows_update_key (t : Table key) (k : κ) (f : α → α) (hf) :
    (t.update (fun r => key r == k) f hf).rows = t.rows ↔ ∀ r, t.get k = some r → f r = r := by
  simpa using map_update_key id t k f hf

theorem rows_insert_ne {t u : Table key} {r : α} (h : t.insert r = some u) : u.rows ≠ t.rows := by
  intro he
  have := congrArg List.length he
  rw [(insert_some h).2, List.length_append, List.length_singleton] at this
  omega

structure Replaces (t u : Table key) (row next : α) : Prop where
  stored : t.get (key row) = some row
  same : key next = key row
  mem : ∀ r, r ∈ u.rows ↔ r = next ∨ r ∈ t.rows ∧ key r ≠ key row
  count : ∀ p : α → Bool, (p next = true → p row = true) → u.rows.countP p ≤ t.rows.countP p

theorem replaces_update {t : Table key} {k : κ} {row : α} (f : α → α) (hf : ∀ r, key (f r) = key r)
    (hg : t.get k = some row) : Replaces t (t.update (fun r => key r == k) f hf) row (f row) := by
  have hk : key row = k := key_of_get hg
  have hone : ∀ r ∈ t.rows, key r = k → r = row := by
    intro r hr hkey
    have : some r = some row := by rw [← hg, ← hkey, get_of_mem hr]
    exact Option.some.inj this
  refine ⟨by rw [hk]; exact hg, hf row, fun r => ?_, fun p hp => ?_⟩
  · rw [mem_update, hk]
    constructor
    · rintro ⟨q, hq, rfl⟩
      by_cases hkey : key q = k
      · rw [if_pos (by simpa using hkey), hone q hq hkey]
        exact Or.inl rfl
      · rw [if_neg (by simpa using hkey)]
        exact Or.inr ⟨hq, hkey⟩
    · rintro (rfl | ⟨hr, hkey⟩)
      · exact ⟨row, mem_of_get hg, by rw [if_pos (by simpa using hk)]⟩
      · exact ⟨r, hr, by rw [if_neg (by simpa using hkey)]⟩
  · show (t.rows.map _).countP p ≤ t.rows.countP p
    rw [List.countP_map]
    refine List.countP_mono_left (fun r hr hpr => ?_)
    by_cases hkey : key r = k
    · rw [Function.comp, if_pos (by simpa using hkey), hone r hr hkey] at hpr
      rw [hone r hr hkey]
      exact hp hpr
    · rw [Function.comp, if_neg (by simpa using hkey)] at hpr
      exact hpr

/-! ## The largest value of a column -/

/-- `coalesce(max(f),0)`. -/
def maxOf (f : α → Nat) (rows : List α) : Nat := rows.foldl (fun m r => max m (f r)) 0

theorem maxOf_append (f : α → Nat) (rows : List α) (r : α) : maxOf f (rows ++ [r]) = max (maxOf f rows) (f r) := by
  unfold maxOf
  rw [List.foldl_append]
  rfl

theorem le_maxOf (f : α → Nat) {rows : List α} {r : α} (h : r ∈ rows) : f r ≤ maxOf f rows := by
  induction rows using List.reverseRecOn with
  | nil => cases h
  | append_singleton rows q ih =>
    rw [maxOf_append]
    rcases List.mem_append.1 h with h | h
    · have := ih h
      omega
    · obtain rfl := List.mem_singleton.1 h
      omega

theorem maxOf_le (f : α → Nat) {rows : List α} {m : Nat} (h : ∀ r ∈ rows, f r ≤ m) : maxOf f rows ≤ m := by
  induction rows using List.reverseRecOn with
  | nil => exact Nat.zero_le m
  | append_singleton rows q ih =>
    rw [maxOf_append]
    have h1 := ih (fun r hr => h r (List.mem_append_left _ hr))
    have h2 := h q (List.mem_append_right _ List.mem_cons_self)
    omega

theorem exists_maxOf (f : α → Nat) {rows : List α} (h : rows ≠ []) : ∃ r ∈ rows, f r = maxOf f rows := by
  induction rows using List.reverseRecOn with
  | nil => exact absurd rfl h
  | append_singleton rows q ih =>
    rw [maxOf_append]
    by_cases hle : maxOf f rows ≤ f q
    · exact ⟨q, by simp, by omega⟩
    · have hrows : rows ≠ [] := by
        rintro rfl
        exact hle (Nat.zero_le _)
      obtain ⟨r, hr, hmax⟩ := ih hrows
      exact ⟨r, List.mem_append_left _ hr, by omega⟩

/-! ## Rows numbered from one -/

theorem maxOf_numbered (f : α → Nat) : ∀ (l : List α), l.map f = List.range' 1 l.length → maxOf f l = l.length := by
  intro l
  induction l using List.reverseRecOn with
  | nil => intro _; rfl
  | append_singleton l r ih =>
    intro h
    rw [List.map_append, List.length_append, List.length_singleton, List.range'_concat] at h
    obtain ⟨h1, h2⟩ := List.append_inj' h rfl
    simp only [List.map_cons, List.map_nil, List.cons.injEq, and_true] at h2
    rw [maxOf_append, ih h1, List.length_append, List.length_singleton]
    omega

/-- The row with the largest number is the last one. -/
theorem find_numbered (f : α → Nat) : ∀ (l : List α), l.map f = List.range' 1 l.length →
    l.find? (fun r => f r == l.length) = l.getLast? := by
  intro l
  induction l using List.reverseRecOn with
  | nil => intro _; rfl
  | append_singleton l r _ =>
    intro h
    rw [List.map_append, List.length_append, List.length_singleton, List.range'_concat] at h
    obtain ⟨h1, h2⟩ := List.append_inj' h rfl
    simp only [List.map_cons, List.map_nil, List.cons.injEq, and_true] at h2
    have hnone : l.find? (fun q => f q == (l ++ [r]).length) = none := by
      rw [List.find?_eq_none]
      intro q hq
      have : f q ∈ List.range' 1 l.length := h1 ▸ List.mem_map.2 ⟨q, hq, rfl⟩
      rw [List.mem_range'_1] at this
      simp only [List.length_append, List.length_singleton, beq_iff_eq]
      omega
    rw [List.find?_append, hnone, Option.none_or, List.getLast?_concat]
    have : (f r == (l ++ [r]).length) = true := by
      simp only [List.length_append, List.length_singleton, beq_iff_eq]
      omega
    rw [List.find?_cons, this]

/-- The next number keeps the numbering. -/
theorem numbered_concat (f : α → Nat) {l : List α} {r : α} (h : l.map f = List.range' 1 l.length)
    (hr : f r = maxOf f l + 1) : (l ++ [r]).map f = List.range' 1 (l ++ [r]).length := by
  rw [List.map_append, h, List.length_append, List.length_singleton, List.range'_concat, List.map_singleton, hr,
    maxOf_numbered f l h, Nat.one_mul, Nat.add_comm]

end Table
