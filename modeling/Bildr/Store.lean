import Bildr.Table
/-!
# Store — what every store call shares

The store is one SQLite connection behind a mutex: a call takes the lock, runs statements, and either returns a value
or one of the errors below.  A `transaction` works on a copy of the tables; an error on the way drops the copy, so the
tables are as before (`transaction_error`).  Statements outside a transaction commit one by one.
-/
namespace Bildr

/-- What SQLite refuses: a broken `UNIQUE`, `PRIMARY KEY`, `CHECK` or `FOREIGN KEY`, a query for one row that found
none, a stored value that does not convert, or a sum beyond 64 bits. -/
inductive SqliteError
  | constraintViolation
  | queryReturnedNoRows
  | fromSqlConversionFailure
  | integerOverflow
deriving DecidableEq, Repr

/-- `StoreError`, the variants the modelled calls return. -/
inductive StoreError
  | sqlite (e : SqliteError)
  | json
  | notFound (what : String)
  | conflict (why : String)
  | validation (why : String)
deriving DecidableEq, Repr

abbrev Call (σ α : Type) := σ → Except StoreError α × σ

/-- `BEGIN … COMMIT`, rolled back when the body fails. -/
def transaction {σ α : Type} (body : σ → Except StoreError (α × σ)) : Call σ α := fun s =>
  match body s with
  | .ok (a, s') => (.ok a, s')
  | .error e    => (.error e, s)

def commit {σ : Type} (body : σ → Except StoreError σ) : Call σ Unit :=
  transaction (fun s => body s >>= fun s' => .ok ((), s'))

/-- One call after another; what the first one committed stays when the second one fails. -/
def Call.andThen {σ α β : Type} (c : Call σ α) (f : α → Call σ β) : Call σ β := fun s =>
  match c s with
  | (.ok a, s')    => f a s'
  | (.error e, s') => (.error e, s')

def Call.map {σ α β : Type} (c : Call σ α) (f : α → β) : Call σ β := fun s => ((c s).1.map f, (c s).2)

def Call.ret {σ α : Type} (a : α) : Call σ α := fun s => (.ok a, s)

section Transaction
variable {σ α β : Type}

theorem transaction_error {body : σ → Except StoreError (α × σ)} {s : σ} {e : StoreError}
    (h : (transaction body s).1 = .error e) : (transaction body s).2 = s := by
  unfold transaction at h ⊢
  cases hb : body s with
  | ok q => rw [hb] at h; cases h
  | error e' => rfl

theorem transaction_ok {body : σ → Except StoreError (α × σ)} {s s' : σ} {a : α} (h : transaction body s = (.ok a, s')) :
    body s = .ok (a, s') := by
  unfold transaction at h
  cases hb : body s with
  | ok q =>
    rw [hb] at h
    cases h
    rfl
  | error e =>
    rw [hb] at h
    cases h

/-- A transaction either fails and changes nothing, or leaves what its body computed. -/
theorem transaction_cases (body : σ → Except StoreError (α × σ)) (s : σ) :
    (∃ e, body s = .error e ∧ transaction body s = (.error e, s)) ∨
    ∃ a s', body s = .ok (a, s') ∧ transaction body s = (.ok a, s') := by
  unfold transaction
  cases hb : body s with
  | ok q => exact Or.inr ⟨q.1, q.2, rfl, rfl⟩
  | error e => exact Or.inl ⟨e, rfl, rfl⟩

/-- What holds of the tables before, and of what the body left, holds after the transaction. -/
theorem transaction_after {P : σ → Prop} {body : σ → Except StoreError (α × σ)} {s : σ} (hs : P s)
    (hb : ∀ a s', body s = .ok (a, s') → P s') : P (transaction body s).2 := by
  rcases transaction_cases body s with ⟨e, -, h⟩ | ⟨a, s', hok, h⟩
  · rw [h]
    exact hs
  · rw [h]
    exact hb a s' hok

theorem commit_ok {body : σ → Except StoreError σ} {s s' : σ} (h : body s = .ok s') :
    commit body s = (.ok (), s') := by
  simp only [commit, transaction, h]
  rfl

theorem commit_cases (body : σ → Except StoreError σ) (s : σ) :
    (∃ e, body s = .error e ∧ commit body s = (.error e, s)) ∨ ∃ s', body s = .ok s' ∧ commit body s = (.ok (), s') := by
  cases h : body s with
  | ok s' => exact Or.inr ⟨s', rfl, commit_ok h⟩
  | error e =>
    refine Or.inl ⟨e, rfl, ?_⟩
    simp only [commit, transaction, h]
    rfl

theorem commit_after {P : σ → Prop} {body : σ → Except StoreError σ} {s : σ} (hs : P s)
    (hb : ∀ s', body s = .ok s' → P s') : P (commit body s).2 := by
  rcases commit_cases body s with ⟨e, -, h⟩ | ⟨s', hok, h⟩
  · rw [h]
    exact hs
  · rw [h]
    exact hb s' hok

/-- A transaction that returns nothing succeeds or changes nothing. -/
theorem commit_result (body : σ → Except StoreError σ) (s : σ) : (commit body s).1 = .ok () ∨ (commit body s).2 = s := by
  cases h : (commit body s).1 with
  | ok u => exact Or.inl rfl
  | error e => exact Or.inr (transaction_error h)

theorem commit_error {body : σ → Except StoreError σ} {s : σ} {e : StoreError} (h : body s = .error e) :
    commit body s = (.error e, s) := by
  simp only [commit, transaction, h]
  rfl

theorem andThen_ok {c : Call σ α} {f : α → Call σ β} {s : σ} {a : α} (h : (c s).1 = .ok a) :
    c.andThen f s = f a (c s).2 := by
  unfold Call.andThen
  generalize c s = q at h
  obtain ⟨r, s'⟩ := q
  cases h
  rfl

theorem andThen_error {c : Call σ α} {f : α → Call σ β} {s : σ} {e : StoreError} (h : (c s).1 = .error e) :
    c.andThen f s = (.error e, (c s).2) := by
  unfold Call.andThen
  generalize c s = q at h
  obtain ⟨r, s'⟩ := q
  cases h
  rfl

theorem map_error {call : Call σ α} {f : α → β} {t : σ} {e : StoreError}
    (h : ((call.map f) t).1 = .error e) : (call t).1 = .error e := by
  cases hc : (call t).1 with
  | error e' =>
    simp only [Call.map, hc, Except.map, Except.error.injEq] at h
    rw [h]
  | ok a =>
    simp only [Call.map, hc, Except.map] at h
    cases h

theorem andThen_assoc {γ : Type} (a : Call σ α) (f : α → Call σ β) (g : β → Call σ γ) :
    (a.andThen f).andThen g = a.andThen (fun x => (f x).andThen g) := by
  funext t
  cases h : (a t).1 with
  | error e =>
    have h' : ((a.andThen f) t).1 = .error e := by rw [andThen_error h]
    rw [andThen_error h', andThen_error h, andThen_error h]
  | ok x =>
    rw [andThen_ok h]
    have hmid : (a.andThen f) t = f x (a t).2 := andThen_ok h
    unfold Call.andThen at hmid ⊢
    rw [hmid]

theorem map_andThen {γ : Type} (a : Call σ α) (g : α → β) (f : β → Call σ γ) :
    (a.map g).andThen f = a.andThen (fun x => f (g x)) := by
  funext t
  cases h : (a t).1 with
  | error e =>
    have h' : ((a.map g) t).1 = .error e := by simp only [Call.map, h, Except.map]
    rw [andThen_error h', andThen_error h]
    rfl
  | ok x =>
    have h' : ((a.map g) t).1 = .ok (g x) := by simp only [Call.map, h, Except.map]
    rw [andThen_ok h', andThen_ok h]
    rfl

/-- What both calls keep, the sequence keeps. -/
theorem andThen_keeps {γ : Type} (g : σ → γ) {c : Call σ α} {f : α → Call σ β} {s : σ}
    (hf : ∀ a, g (f a (c s).2).2 = g (c s).2) : g (c.andThen f s).2 = g (c s).2 := by
  cases h : (c s).1 with
  | ok a => rw [andThen_ok h, hf a]
  | error e => rw [andThen_error h]

/-- What the body of a transaction keeps, the transaction keeps. -/
theorem commit_keeps {γ : Type} (g : σ → γ) {body : σ → Except StoreError σ} {s : σ}
    (hb : ∀ s', body s = .ok s' → g s' = g s) : g (commit body s).2 = g s := by
  cases h : body s with
  | ok s' => rw [commit_ok h]; exact hb s' h
  | error e => rw [commit_error h]

end Transaction

/-! ## Checks and statements on the way -/

/-- A check that returns `e` when it does not hold. -/
def ensure {ε : Type} (b : Bool) (e : ε) : Except ε Unit := if b then .ok () else .error e

def okOr {ε α : Type} (o : Option α) (e : ε) : Except ε α :=
  match o with
  | some a => .ok a
  | none   => .error e

/-- A `FOREIGN KEY` or `CHECK` of an inserted row. -/
def require (b : Bool) : Except StoreError Unit := ensure b (.sqlite .constraintViolation)

/-- `INSERT`, refused when the key is taken. -/
def insertRow {α κ : Type} {key : α → κ} [DecidableEq κ] (t : Table key) (r : α) :
    Except StoreError (Table key) :=
  match t.insert r with
  | some t' => .ok t'
  | none    => .error (.sqlite .constraintViolation)

/-- `query_row`: the row a query finds, or an error. -/
def queryRow {α : Type} (o : Option α) : Except StoreError α := okOr o (.sqlite .queryReturnedNoRows)

section Checks
variable {α β : Type}

@[simp] theorem ok_bind {ε : Type} (a : α) (f : α → Except ε β) : (Except.ok a >>= f) = f a := rfl

@[simp] theorem error_bind {ε : Type} (e : ε) (f : α → Except ε β) : ((Except.error e : Except ε α) >>= f) = .error e :=
  rfl

@[simp] theorem pure_ok {ε : Type} (a : α) : (pure a : Except ε α) = .ok a := rfl

theorem bind_ok {ε : Type} {x : Except ε α} {f : α → Except ε β} {b : β} (h : (x >>= f) = .ok b) :
    ∃ a, x = .ok a ∧ f a = .ok b := by
  cases x with
  | error e => cases h
  | ok a => exact ⟨a, rfl, h⟩

@[simp] theorem ensure_true {ε : Type} (e : ε) : ensure true e = .ok () := rfl

@[simp] theorem ensure_false {ε : Type} (e : ε) : ensure false e = .error e := rfl

theorem ensure_ok {ε : Type} {b : Bool} {e : ε} {u : Unit} (h : ensure b e = .ok u) : b = true := by
  cases b with
  | false => cases h
  | true => rfl

theorem require_ok {b : Bool} {u : Unit} (h : require b = .ok u) : b = true := ensure_ok h

theorem isOk_unit {ε : Type} {x : Except ε Unit} (h : x.isOk = true) : x = .ok () := by
  cases x with
  | error e => cases h
  | ok u => rfl

theorem okOr_ok {ε : Type} {o : Option α} {e : ε} {a : α} (h : okOr o e = .ok a) : o = some a := by
  cases o with
  | none => cases h
  | some b => cases h; rfl

/-- A fallible map succeeded on every element. -/
theorem mapM_ok {ε : Type} {f : α → Except ε β} : ∀ {l : List α} {m : List β}, l.mapM f = .ok m →
    ∀ {a : α}, a ∈ l → ∃ b, f a = .ok b
  | [], _, _, _, ha => by cases ha
  | x :: l, m, h, a, ha => by
    rw [List.mapM_cons] at h
    obtain ⟨b, hb, h⟩ := bind_ok h
    obtain ⟨m', hm, -⟩ := bind_ok h
    rcases List.mem_cons.1 ha with rfl | ha
    · exact ⟨b, hb⟩
    · exact mapM_ok hm ha

/-- The results of a fallible map are the elements' results. -/
theorem mem_mapM {ε : Type} {f : α → Except ε β} : ∀ {l : List α} {m : List β}, l.mapM f = .ok m →
    ∀ {b : β}, b ∈ m ↔ ∃ a ∈ l, f a = .ok b
  | [], m, h, b => by
    cases h
    simp
  | x :: l, m, h, b => by
    rw [List.mapM_cons] at h
    obtain ⟨c, hc, h⟩ := bind_ok h
    obtain ⟨m', hm, h⟩ := bind_ok h
    cases h
    rw [List.mem_cons, mem_mapM hm]
    constructor
    · rintro (rfl | ⟨a, ha, hab⟩)
      · exact ⟨x, List.mem_cons_self, hc⟩
      · exact ⟨a, List.mem_cons_of_mem x ha, hab⟩
    · rintro ⟨a, ha, hab⟩
      rcases List.mem_cons.1 ha with rfl | ha
      · rw [hc] at hab
        exact Or.inl (Except.ok.inj hab).symm
      · exact Or.inr ⟨a, ha, hab⟩

theorem mapError_ok {ε ε' : Type} {f : ε → ε'} {x : Except ε α} {a : α} : x.mapError f = .ok a ↔ x = .ok a := by
  cases x with
  | ok b => simp [Except.mapError]
  | error e => simp [Except.mapError]

theorem mapM_isOk {ε : Type} {f : α → Except ε β} : ∀ {l : List α}, (∀ a ∈ l, ∃ b, f a = .ok b) →
    ∃ m, l.mapM f = .ok m
  | [], _ => ⟨[], rfl⟩
  | x :: l, h => by
    obtain ⟨b, hb⟩ := h x List.mem_cons_self
    obtain ⟨m, hm⟩ := mapM_isOk (fun a ha => h a (List.mem_cons_of_mem x ha))
    exact ⟨b :: m, by rw [List.mapM_cons, hb, ok_bind, hm]; rfl⟩

/-- A check made on every element passes on each of them, or fails as it fails on one. -/
theorem forM_cases {ε : Type} {f : α → Except ε Unit} : ∀ (l : List α),
    (l.forM f = .ok () ∧ ∀ a ∈ l, f a = .ok ()) ∨ ∃ a ∈ l, ∃ e, f a = .error e ∧ l.forM f = .error e
  | [] => Or.inl ⟨rfl, by simp⟩
  | a :: l => by
    have hcons : (a :: l).forM f = f a >>= fun _ => l.forM f := rfl
    cases ha : f a with
    | error e => exact Or.inr ⟨a, List.mem_cons_self, e, ha, by rw [hcons, ha]; rfl⟩
    | ok u =>
      have hl : (a :: l).forM f = l.forM f := by rw [hcons, ha]; rfl
      rw [hl]
      rcases forM_cases l with ⟨h, hall⟩ | ⟨b, hb, e, he, h⟩
      · refine Or.inl ⟨h, fun b hb => ?_⟩
        rcases List.mem_cons.1 hb with rfl | hb
        · exact ha
        · exact hall b hb
      · exact Or.inr ⟨b, List.mem_cons_of_mem a hb, e, he, h⟩

theorem forM_ok {ε : Type} {f : α → Except ε Unit} {l : List α} {u : Unit} (h : l.forM f = .ok u) {a : α} (ha : a ∈ l) :
    f a = .ok () := by
  rcases forM_cases (f := f) l with ⟨-, hall⟩ | ⟨b, -, e, -, he⟩
  · exact hall a ha
  · rw [he] at h
    cases h

theorem insertRow_ok {κ : Type} {key : α → κ} [DecidableEq κ] {t u : Table key} {r : α}
    (h : insertRow t r = .ok u) : t.insert r = some u := by
  unfold insertRow at h
  cases hi : t.insert r with
  | none => rw [hi] at h; cases h
  | some v => rw [hi] at h; cases h; rfl

theorem insertRow_isOk {κ : Type} {key : α → κ} [DecidableEq κ] {t : Table key} {r : α} (h : key r ∉ t.rows.map key) :
    ∃ u, insertRow t r = .ok u := by
  unfold insertRow
  cases hi : t.insert r with
  | some u => exact ⟨u, rfl⟩
  | none => exact absurd (Table.get_isSome.1 (Table.insert_none.1 hi)) h

theorem insertRow_ok_iff {κ : Type} {key : α → κ} [DecidableEq κ] {t u : Table key} {r : α} :
    insertRow t r = .ok u ↔ key r ∉ t.rows.map key ∧ u.rows = t.rows ++ [r] := by
  constructor
  · intro h
    obtain ⟨hg, hu⟩ := Table.insert_some (insertRow_ok h)
    refine ⟨fun hm => ?_, hu⟩
    rw [← Table.get_isSome, hg] at hm
    cases hm
  · rintro ⟨hr, hu⟩
    obtain ⟨v, hv⟩ := insertRow_isOk hr
    have hvu : v = u := Table.ext_rows ((Table.insert_some (insertRow_ok hv)).2.trans hu.symm)
    rw [hv, hvu]

/-- **Rows inserted one after the other** all fit exactly when no key is repeated, and stand at the end. -/
theorem insertRows_ok_iff {κ : Type} {key : α → κ} [DecidableEq κ] : ∀ {rs : List α} {t u : Table key},
    rs.foldlM insertRow t = .ok u ↔ ((t.rows ++ rs).map key).Nodup ∧ u.rows = t.rows ++ rs
  | [], t, u => by
    rw [List.foldlM_nil, List.append_nil]
    refine ⟨fun h => ?_, fun h => ?_⟩
    · cases h
      exact ⟨t.nodup, rfl⟩
    · rw [Table.ext_rows h.2]
      rfl
  | r :: rs, t, u => by
    rw [List.foldlM_cons]
    constructor
    · intro h
      obtain ⟨v, hv, h⟩ := bind_ok h
      have hrows := (insertRow_ok_iff.1 hv).2
      have hu := insertRows_ok_iff.1 h
      rw [hrows, List.append_assoc] at hu
      exact hu
    · rintro ⟨hn, hu⟩
      have hr : key r ∉ t.rows.map key := by
        rw [List.map_append, List.map_cons] at hn
        exact fun hm => (List.nodup_append.1 hn).2.2 _ hm _ List.mem_cons_self rfl
      obtain ⟨v, hv⟩ := insertRow_isOk hr
      rw [hv, ok_bind]
      refine insertRows_ok_iff.2 ?_
      rw [(insertRow_ok_iff.1 hv).2, List.append_assoc]
      exact ⟨hn, hu⟩

end Checks

/-! ## 64-bit integers -/

def i64Max : Int := 9223372036854775807
def i64Min : Int := -9223372036854775808

/-- The value is one of an `i64`. -/
def fitsI64 (n : Nat) : Bool := decide ((n : Int) ≤ i64Max)

/-- Saturation of an `i64` operation. -/
def satI64 (n : Int) : Int := max i64Min (min n i64Max)

/-- `value as i64`, for a `u64`. -/
def asI64 (n : Nat) : Int := if fitsI64 n then n else (n : Int) - 18446744073709551616

/-- `i64::try_from(value).unwrap_or(i64::MAX)`, for a `u64`. -/
def clampI64 (n : Nat) : Int := if fitsI64 n then n else i64Max

/-! ## The tasks of a run -/

inductive TaskState
  | proposed | ready | waitingDependency | waitingResource | waitingApproval | leased | starting | implementing
  | reviewReady | verifying | changesRequested | verified | integrationQueued | integrating | integrated | ciProven
  | liveProven | closed | blocked | needsHelp | stalled | interrupted | failed | superseded | canceled
deriving DecidableEq, Repr

end Bildr
