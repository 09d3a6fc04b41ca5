import Bildr.Texts
/-!
# Words — the words of a text

The words of a text are what stands between its spaces, and are known again from the text that joins them by one space
each (`join_inj`).
-/
namespace Words

def words (isSpace : Char → Bool) (l : List Char) : List (List Char) :=
  (l.splitOnP isSpace).filter (fun w => !w.isEmpty)

def IsWord (isSpace : Char → Bool) (w : List Char) : Prop := w ≠ [] ∧ ∀ c ∈ w, isSpace c = false

theorem splitOnP_plain (isSpace : Char → Bool) : ∀ {l w : List Char}, w ∈ l.splitOnP isSpace →
    ∀ c ∈ w, isSpace c = false ∧ c ∈ l
  | [], w, hw, c, hc => by
    rw [List.splitOnP_nil, List.mem_singleton] at hw
    rw [hw] at hc
    cases hc
  | a :: l, w, hw, c, hc => by
    rw [List.splitOnP_cons_eq_if_modifyHead] at hw
    have hlater : w ∈ l.splitOnP isSpace → isSpace c = false ∧ c ∈ a :: l := fun hw =>
      (splitOnP_plain isSpace hw c hc).imp_right (List.mem_cons_of_mem a)
    cases hspace : isSpace a with
    | true =>
      rw [hspace, if_pos rfl] at hw
      rcases List.mem_cons.1 hw with rfl | hw
      · cases hc
      · exact hlater hw
    | false =>
      rw [hspace, if_neg (by decide)] at hw
      obtain ⟨v, vs, hsplit⟩ := List.exists_cons_of_ne_nil (List.splitOnP_ne_nil isSpace l)
      rw [hsplit, List.modifyHead_cons] at hw
      rcases List.mem_cons.1 hw with rfl | hw
      · rcases List.mem_cons.1 hc with rfl | hc
        · exact ⟨hspace, List.mem_cons_self⟩
        · exact (splitOnP_plain isSpace (by rw [hsplit]; exact List.mem_cons_self) c hc).imp_right
            (List.mem_cons_of_mem a)
      · exact hlater (by rw [hsplit]; exact List.mem_cons_of_mem v hw)

theorem isWord_of_mem {isSpace : Char → Bool} {l w : List Char} (hw : w ∈ words isSpace l) : IsWord isSpace w := by
  obtain ⟨hsplit, hne⟩ := List.mem_filter.1 hw
  exact ⟨(by rintro rfl; cases hne), fun c hc => (splitOnP_plain isSpace hsplit c hc).1⟩

/-- The characters of the words are characters of the text. -/
theorem mem_of_mem_words {isSpace : Char → Bool} {l w : List Char} (hw : w ∈ words isSpace l) {c : Char} (hc : c ∈ w) :
    c ∈ l :=
  (splitOnP_plain isSpace (List.mem_filter.1 hw).1 c hc).2

/-! ## Joined words -/

def join (space : Char) : List (List Char) → List Char
  | []          => []
  | [w]         => w
  | v :: w :: l => v ++ space :: join space (w :: l)

theorem map_join (f : Char → Char) (space : Char) :
    ∀ l : List (List Char), (join space l).map f = join (f space) (l.map (List.map f))
  | []          => rfl
  | [_]         => rfl
  | v :: w :: l => by
    rw [join, List.map_append, List.map_cons, map_join f space (w :: l)]
    rfl

theorem mem_join {space c : Char} : ∀ {l : List (List Char)}, c ∈ join space l → c = space ∨ ∃ w ∈ l, c ∈ w
  | [], h => by cases h
  | [w], h => .inr ⟨w, List.mem_cons_self, h⟩
  | v :: w :: l, h => by
    rw [join, List.mem_append, List.mem_cons] at h
    rcases h with h | h | h
    · exact .inr ⟨v, List.mem_cons_self, h⟩
    · exact .inl h
    · exact (mem_join h).imp_right (fun ⟨u, hu, hc⟩ => ⟨u, List.mem_cons_of_mem v hu, hc⟩)

theorem join_inj {space : Char} : ∀ {l l' : List (List Char)}, (∀ w ∈ l, w ≠ [] ∧ space ∉ w) →
    (∀ w ∈ l', w ≠ [] ∧ space ∉ w) → join space l = join space l' → l = l'
  | [], [], _, _, _ => rfl
  | [], [w], _, hl', h => absurd h.symm (hl' w List.mem_cons_self).1
  | [], v :: w :: l', _, _, h => by cases List.append_eq_nil_iff.1 h.symm |>.2
  | [w], [], hl, _, h => absurd h (hl w List.mem_cons_self).1
  | v :: w :: l, [], _, _, h => by cases List.append_eq_nil_iff.1 h |>.2
  | [v], [w], _, _, h => by
    have hvw : v = w := h
    rw [hvw]
  | [v], w :: u :: l', hl, _, h => by
    have hv : v = w ++ space :: join space (u :: l') := h
    exact absurd (by rw [hv]; exact List.mem_append_right w List.mem_cons_self) (hl v List.mem_cons_self).2
  | v :: u :: l, [w], _, hl', h => by
    have hw : w = v ++ space :: join space (u :: l) := h.symm
    exact absurd (by rw [hw]; exact List.mem_append_right v List.mem_cons_self) (hl' w List.mem_cons_self).2
  | v :: u :: l, w :: x :: l', hl, hl', h => by
    obtain ⟨hvw, hrest⟩ := Texts.separator_inj (hl v List.mem_cons_self).2 (hl' w List.mem_cons_self).2 h
    rw [hvw, join_inj (fun w hw => hl w (List.mem_cons_of_mem v hw)) (fun u hu => hl' u (List.mem_cons_of_mem w hu)) hrest]

end Words
