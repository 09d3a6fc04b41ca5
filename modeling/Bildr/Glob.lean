import Mathlib.Data.List.Infix
/-!
# Glob — path patterns and `LIKE`

Two pattern languages over characters.

A glob is read as a shell reads it: `*` any characters, `?` one character, `[a-z]` and `[!a-z]` one character in or out
of a set, `{a,b}` either branch, and `**/` at the start of a component any directories, none included.  `parse` expands
the braces, so a glob is a list of flat token sequences, and a path matches it when it matches one of them.  An
unclosed class or brace is no glob and matches nothing.

`like` is SQL's operator: `%` any characters, `_` one character, letters compared without ASCII case.
-/
namespace Glob

inductive Tok
  | lit (c : Char)
  | one
  | star
  | dirs
  | cls (neg : Bool) (ranges : List (Char × Char))
deriving DecidableEq, Repr

/-- A pattern read left to right: tokens, and the marks of a brace. -/
inductive Sym
  | tok (t : Tok)
  | opn
  | comma
  | close
deriving DecidableEq, Repr

/-! ## Reading -/

/-- A class after its `[` and its negation: the ranges (last first) and what follows the `]`.  A `]` that comes first
and a `-` that starts or ends no range are themselves. -/
def classBody : List Char → Bool → Bool → List (Char × Char) → Option (List (Char × Char) × List Char)
  | [], _, _, _ => none
  | c :: cs, first, inRange, acc =>
    if c = ']' ∧ first = false then some (if inRange then ('-', '-') :: acc else acc, cs)
    else if c = '-' ∧ first = false ∧ inRange = false then classBody cs false true acc
    else if inRange then
      match acc with
      | (lo, _) :: acc => if lo ≤ c then classBody cs false false ((lo, c) :: acc) else none
      | []             => none
    else classBody cs false false ((c, c) :: acc)

/-- A class after its `[`. -/
def readClass : List Char → Option (Tok × List Char)
  | '!' :: cs => (classBody cs true false []).map (fun q => (.cls true q.1, q.2))
  | '^' :: cs => (classBody cs true false []).map (fun q => (.cls true q.1, q.2))
  | cs        => (classBody cs true false []).map (fun q => (.cls false q.1, q.2))

/-- After a `*`: whether it opens a `**/`, whether a component starts next, and what follows. -/
def readStar : Bool → List Char → Tok × Bool × List Char
  | true, '*' :: '/' :: rest => (.dirs, true, rest)
  | _, cs                    => (.star, false, cs)

/-- The symbols of a pattern; `start` says that a component starts here.  Every call reads a character, so a fuel above
the length never runs out. -/
def lex : Nat → Bool → List Char → Option (List Sym)
  | 0, _, _ => none
  | _ + 1, _, [] => some []
  | n + 1, start, c :: cs =>
    if c = '*' then (lex n (readStar start cs).2.1 (readStar start cs).2.2).map (.tok (readStar start cs).1 :: ·)
    else if c = '?' then (lex n false cs).map (.tok .one :: ·)
    else if c = '[' then (readClass cs).bind (fun q => (lex n false q.2).map (.tok q.1 :: ·))
    else if c = '{' then (lex n true cs).map (.opn :: ·)
    else if c = '}' then (lex n false cs).map (.close :: ·)
    else if c = ',' then (lex n true cs).map (.comma :: ·)
    else (lex n (c == '/') cs).map (.tok (.lit c) :: ·)

/-- An open brace: the expansions before it, and those of its branches read so far. -/
structure Frame where
  before : List (List Tok)
  closed : List (List Tok)

def branch (cur : List (List Tok)) : List (List Tok) := cur.filter (fun e => !e.isEmpty)

def branches (alts : List (List Tok)) : List (List Tok) := if alts.isEmpty then [[]] else alts

/-- The brace-free expansions of a pattern.  A `,` outside a brace is itself; a brace left open, or a `}` with no brace
open, is an error. -/
def expand : List Sym → List Frame → List (List Tok) → Option (List (List Tok))
  | [], [], cur => some cur
  | [], _ :: _, _ => none
  | .tok t :: ss, st, cur => expand ss st (cur.map (· ++ [t]))
  | .opn :: ss, st, cur => expand ss (⟨cur, []⟩ :: st) [[]]
  | .comma :: ss, [], cur => expand ss [] (cur.map (· ++ [.lit ',']))
  | .comma :: ss, f :: st, cur => expand ss (⟨f.before, f.closed ++ branch cur⟩ :: st) [[]]
  | .close :: _, [], _ => none
  | .close :: ss, f :: st, cur =>
    expand ss st (f.before.flatMap (fun b => (branches (f.closed ++ branch cur)).map (b ++ ·)))

def parse (g : List Char) : Option (List (List Tok)) :=
  (lex (g.length + 1) true g).bind (fun ss => expand ss [] [[]])

/-! ## Matching -/

def inClass (neg : Bool) (ranges : List (Char × Char)) (c : Char) : Bool :=
  ranges.any (fun q => decide (q.1 ≤ c) && decide (c ≤ q.2)) != neg

def afterSlash : List Char → List (List Char)
  | []      => []
  | c :: cs => if c = '/' then cs :: afterSlash cs else afterSlash cs

def matchToks : List Tok → List Char → Bool
  | [] => fun p => p.isEmpty
  | .lit c :: ts => fun p => match p with | [] => false | d :: ds => c == d && matchToks ts ds
  | .one :: ts => fun p => match p with | [] => false | _ :: ds => matchToks ts ds
  | .cls neg rs :: ts => fun p => match p with | [] => false | d :: ds => inClass neg rs d && matchToks ts ds
  | .star :: ts => fun p => p.tails.any (matchToks ts)
  | .dirs :: ts => fun p => matchToks ts p || (afterSlash p).any (matchToks ts)

/-- **A path matches a glob** when it matches one of its expansions. -/
def matchesPath (g p : List Char) : Bool :=
  match parse g with
  | none      => false
  | some alts => alts.any (fun ts => matchToks ts p)

/-! ## The characters before the first special one

Every path a glob matches starts with them: they expand to the same tokens in every branch (`parse_lead`), and a
literal token matches itself alone (`matchToks_lead`). -/

theorem matchToks_lead : ∀ (lead : List Char) (ts : List Tok) (p : List Char),
    matchToks (lead.map Tok.lit ++ ts) p = true → lead <+: p
  | [], _, p, _ => List.nil_prefix
  | c :: lead, ts, [], h => by simp [matchToks] at h
  | c :: lead, ts, d :: p, h => by
    simp only [List.map_cons, List.cons_append, matchToks, Bool.and_eq_true, beq_iff_eq] at h
    obtain ⟨rfl, h⟩ := h
    exact (List.prefix_cons_inj c).2 (matchToks_lead lead ts p h)

/-- The expansions before the outermost open brace, or all of them when none is open, start with `lead`. -/
def Leads (lead : List Tok) : List Frame → List (List Tok) → Prop
  | [], cur => ∀ e ∈ cur, lead <+: e
  | f :: st, _ => Leads lead st f.before

theorem leads_extend (lead : List Tok) : ∀ (st : List Frame) (cur cur' : List (List Tok)),
    (∀ e' ∈ cur', ∃ e ∈ cur, e <+: e') → Leads lead st cur → Leads lead st cur'
  | [], _, _, hc, h => fun e' he' => by
    obtain ⟨e, he, hp⟩ := hc e' he'
    exact (h e he).trans hp
  | _ :: _, _, _, _, h => h

theorem expand_leads (lead : List Tok) : ∀ (ss : List Sym) (st : List Frame) (cur r : List (List Tok)),
    Leads lead st cur → expand ss st cur = some r → ∀ e ∈ r, lead <+: e
  | [], [], cur, r, h, hr => by
    simp only [expand, Option.some.injEq] at hr
    exact hr ▸ h
  | [], _ :: _, _, _, _, hr => by simp [expand] at hr
  | .tok t :: ss, st, cur, r, h, hr => by
    refine expand_leads lead ss st (cur.map (· ++ [t])) r (leads_extend lead st cur _ ?_ h) hr
    intro e' he'
    obtain ⟨e, he, rfl⟩ := List.mem_map.1 he'
    exact ⟨e, he, List.prefix_append e [t]⟩
  | .opn :: ss, st, cur, r, h, hr => expand_leads lead ss (⟨cur, []⟩ :: st) [[]] r h hr
  | .comma :: ss, [], cur, r, h, hr => by
    refine expand_leads lead ss [] (cur.map (· ++ [Tok.lit ','])) r (leads_extend lead [] cur _ ?_ h) hr
    intro e' he'
    obtain ⟨e, he, rfl⟩ := List.mem_map.1 he'
    exact ⟨e, he, List.prefix_append e _⟩
  | .comma :: ss, f :: st, cur, r, h, hr =>
    expand_leads lead ss (⟨f.before, f.closed ++ branch cur⟩ :: st) [[]] r h hr
  | .close :: _, [], _, _, _, hr => by simp [expand] at hr
  | .close :: ss, f :: st, cur, r, h, hr => by
    refine expand_leads lead ss st _ r (leads_extend lead st f.before _ ?_ h) hr
    intro e' he'
    obtain ⟨b, hb, hm⟩ := List.mem_flatMap.1 he'
    obtain ⟨a, _, rfl⟩ := List.mem_map.1 hm
    exact ⟨b, hb, List.prefix_append b a⟩

/-- The characters a literal stretch may hold: any but `*`, `?`, `[` and `{`. -/
def plain (c : Char) : Bool := !(c == '*' || c == '?' || c == '[' || c == '{')

/-- Reading a literal stretch outside braces appends its characters to the one expansion.  A `}` in it is an error. -/
theorem expand_lead : ∀ (lead rest : List Char) (n : Nat) (start : Bool) (done : List Char) (r : List (List Tok)),
    lead.all plain = true →
    (lex (n + lead.length) start (lead ++ rest)).bind (fun ss => expand ss [] [done.map Tok.lit]) = some r →
    ∃ start', (lex n start' rest).bind (fun ss => expand ss [] [(done ++ lead).map Tok.lit]) = some r
  | [], rest, n, start, done, r, _, h => ⟨start, by simpa using h⟩
  | c :: lead, rest, n, start, done, r, hl, h => by
    rw [List.all_cons, Bool.and_eq_true] at hl
    obtain ⟨hc, hl⟩ := hl
    simp only [plain, Bool.not_eq_true', Bool.or_eq_false_iff, beq_eq_false_iff_ne] at hc
    obtain ⟨⟨⟨h1, h2⟩, h3⟩, h4⟩ := hc
    rw [List.length_cons, ← Nat.add_assoc, List.cons_append, lex, if_neg h1, if_neg h2, if_neg h3, if_neg h4] at h
    have hone : ∀ d, [(done.map Tok.lit)].map (· ++ [Tok.lit d]) = [(done ++ [d]).map Tok.lit] := fun d => by simp
    have hsnoc : done ++ c :: lead = done ++ [c] ++ lead := by simp
    split at h
    · -- the symbol is a `}`, and no brace is open
      cases hx : lex (n + lead.length) false (lead ++ rest) <;> simp [hx, expand] at h
    · split at h
      · rename_i hcomma
        subst hcomma
        rw [hsnoc]
        refine expand_lead lead rest n true (done ++ [',']) r hl ?_
        rw [← hone]
        simpa [Option.bind_map, Function.comp_def, expand] using h
      · rw [hsnoc]
        refine expand_lead lead rest n (c == '/') (done ++ [c]) r hl ?_
        rw [← hone]
        simpa [Option.bind_map, Function.comp_def, expand] using h

theorem parse_lead (lead rest : List Char) (r : List (List Tok)) (hl : lead.all plain = true)
    (h : parse (lead ++ rest) = some r) : ∀ e ∈ r, lead.map Tok.lit <+: e := by
  unfold parse at h
  rw [List.length_append, show lead.length + rest.length + 1 = rest.length + 1 + lead.length by omega] at h
  obtain ⟨start, h⟩ := expand_lead lead rest (rest.length + 1) true [] r hl (by simpa using h)
  obtain ⟨ss, -, h⟩ := Option.bind_eq_some_iff.1 h
  exact expand_leads _ ss [] _ r (by simp [Leads]) h

/-- **A path a glob matches starts with the glob's literal stretch.** -/
theorem matchesPath_lead (lead rest p : List Char) (hl : lead.all plain = true)
    (h : matchesPath (lead ++ rest) p = true) : lead <+: p := by
  unfold matchesPath at h
  cases hp : parse (lead ++ rest) with
  | none => rw [hp] at h; cases h
  | some alts =>
    rw [hp] at h
    obtain ⟨e, he, hm⟩ := List.any_eq_true.1 h
    obtain ⟨ts, rfl⟩ := parse_lead lead rest alts hl hp e he
    exact matchToks_lead lead ts p hm

/-! ## Patterns without special characters, and those that end in their first `*` -/

def literal (c : Char) : Bool := plain c && c != '}'

theorem expand_text : ∀ (text rest : List Char) (n : Nat) (start : Bool) (done : List Char), text.all literal = true →
    ∃ start', (lex (n + text.length) start (text ++ rest)).bind (fun ss => expand ss [] [done.map Tok.lit]) =
      (lex n start' rest).bind (fun ss => expand ss [] [(done ++ text).map Tok.lit])
  | [], rest, n, start, done, _ => ⟨start, by simp⟩
  | c :: text, rest, n, start, done, ht => by
    rw [List.all_cons, Bool.and_eq_true] at ht
    obtain ⟨hc, ht⟩ := ht
    simp only [literal, plain, Bool.and_eq_true, Bool.not_eq_true', Bool.or_eq_false_iff, beq_eq_false_iff_ne,
      bne_iff_ne] at hc
    obtain ⟨⟨⟨⟨h1, h2⟩, h3⟩, h4⟩, h5⟩ := hc
    rw [List.length_cons, ← Nat.add_assoc, List.cons_append, lex, if_neg h1, if_neg h2, if_neg h3, if_neg h4, if_neg h5]
    have hone : ∀ d, [(done.map Tok.lit)].map (· ++ [Tok.lit d]) = [(done ++ [d]).map Tok.lit] := fun d => by simp
    have hsnoc : done ++ c :: text = done ++ [c] ++ text := by simp
    rw [hsnoc]
    split
    · rename_i hcomma
      subst hcomma
      obtain ⟨start', h⟩ := expand_text text rest n true (done ++ [',']) ht
      refine ⟨start', ?_⟩
      rw [← h, ← hone]
      simp [Option.bind_map, Function.comp_def, expand]
    · obtain ⟨start', h⟩ := expand_text text rest n (c == '/') (done ++ [c]) ht
      refine ⟨start', ?_⟩
      rw [← h, ← hone]
      simp [Option.bind_map, Function.comp_def, expand]

theorem parse_text (text : List Char) (ht : text.all literal = true) : parse text = some [text.map Tok.lit] := by
  obtain ⟨start, h⟩ := expand_text text [] 1 true [] ht
  unfold parse
  rw [Nat.add_comm]
  simpa [lex, expand] using h

theorem parse_text_star (text : List Char) (ht : text.all literal = true) :
    parse (text ++ ['*']) = some [text.map Tok.lit ++ [Tok.star]] := by
  obtain ⟨start, h⟩ := expand_text text ['*'] 2 true [] ht
  have hread : readStar start [] = (Tok.star, false, []) := by cases start <;> rfl
  unfold parse
  rw [show (text ++ ['*']).length + 1 = 2 + text.length by simp; omega]
  simpa [lex, expand, hread] using h

theorem matchToks_text (ts : List Tok) : ∀ (text s : List Char),
    matchToks (text.map Tok.lit ++ ts) (text ++ s) = matchToks ts s
  | [], s => rfl
  | c :: text, s => by
    have ih := matchToks_text ts text s
    simpa [matchToks] using ih

theorem matchesPath_text (text p : List Char) (ht : text.all literal = true) :
    matchesPath text p = true ↔ p = text := by
  unfold matchesPath
  rw [parse_text text ht]
  simp only [List.any_cons, List.any_nil, Bool.or_false]
  constructor
  · intro h
    obtain ⟨s, rfl⟩ := matchToks_lead text [] p (by simpa using h)
    have hs := matchToks_text [] text s
    rw [List.append_nil, h] at hs
    simpa [matchToks] using hs.symm
  · rintro rfl
    have hs := matchToks_text [] p []
    rw [List.append_nil, List.append_nil] at hs
    simpa [matchToks] using hs

/-- **A text followed by `*` matches all that starts with the text.** -/
theorem matchesPath_text_star (text s : List Char) (ht : text.all literal = true) :
    matchesPath (text ++ ['*']) (text ++ s) = true := by
  unfold matchesPath
  rw [parse_text_star text ht]
  simp only [List.any_cons, List.any_nil, Bool.or_false, matchToks_text]
  simp [matchToks]

/-! ## `LIKE` -/

/-- SQL's `text LIKE pattern`, the pattern first. -/
def like : List Char → List Char → Bool
  | [] => fun s => s.isEmpty
  | c :: ps => fun s =>
    if c = '%' then s.tails.any (like ps)
    else match s with
      | []      => false
      | d :: ds => (c == '_' || c.toLower == d.toLower) && like ps ds

/-- **A text is like every stretch it starts with, followed by `%`**, also when the stretch holds wildcards of its
own. -/
theorem like_of_starts : ∀ (lead s : List Char), like (lead ++ ['%']) (lead ++ s) = true
  | [], s => by
    simp only [List.nil_append, like, if_true]
    exact List.any_eq_true.2 ⟨[], by simp, by simp⟩
  | c :: lead, s => by
    have ih := like_of_starts lead s
    rw [List.cons_append, List.cons_append, like]
    split
    · exact List.any_eq_true.2 ⟨lead ++ s, by simp, ih⟩
    · simp [ih]

end Glob
