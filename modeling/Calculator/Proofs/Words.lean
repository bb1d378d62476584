import Calculator.Text.Blank

/-!
# Words next to blanks

A blank ends the word in front of it: where two texts meet at a blank, their words follow one another
(`words_append_blank`). So words joined by single blanks are found again as they were
(`words_intercalate`).
-/

namespace Calculator

/-- A text that is one word: it is not empty and holds no blank. -/
def IsWord (w : Text) : Prop := w ≠ [] ∧ ∀ c ∈ w, isBlank c = false

theorem isBlank_space : isBlank ' ' = true := by decide

theorem isBlankText_cons {c : Char} {text : Text} :
    isBlankText (c :: text) = true ↔ isBlank c = true ∧ isBlankText text = true := by
  simp [isBlankText]

/-! ## Two texts that meet at a blank -/

theorem joinWord_append (c : Char) {ws : List Text} (h : ws ≠ []) (vs : List Text) :
    joinWord c (ws ++ vs) = joinWord c ws ++ vs := by
  cases ws with
  | nil => exact absurd rfl h
  | cons w ws => rfl

theorem words_cons_ne_nil {c : Char} (h : isBlank c = false) (rest : Text) : words (c :: rest) ≠ [] := by
  rw [Ne, words_eq_nil_iff, isBlankText_cons]
  simp [h]

theorem words_append_blank {b : Char} (hb : isBlank b = true) (front back : Text) :
    words (front ++ b :: back) = words front ++ words back := by
  induction front with
  | nil => simp [words_blank hb]
  | cons c front ih =>
    by_cases hc : isBlank c
    · simp only [List.cons_append, words, hc, ↓reduceIte, ih]
    · cases front with
      | nil => simp [words, hc, hb]
      | cons d front =>
        simp only [List.cons_append, words, hc, Bool.false_eq_true, ↓reduceIte, List.head?_cons,
          Option.all_some] at ih ⊢
        by_cases hd : isBlank d
        · simp only [hd, ↓reduceIte] at ih ⊢
          simp [ih]
        · simp only [hd, Bool.false_eq_true, ↓reduceIte] at ih ⊢
          have hne := words_cons_ne_nil (by simpa using hd) front
          simp only [words, hd, Bool.false_eq_true, ↓reduceIte] at hne
          rw [ih, joinWord_append c hne]

/-- A text that stands alone or behind a blank keeps its words. -/
theorem words_append {front : Text} (h : front = [] ∨ front.getLast? = some ' ') (back : Text) :
    words (front ++ back) = words front ++ words back := by
  rcases h with rfl | h
  · simp
  · obtain ⟨init, rfl⟩ := List.getLast?_eq_some_iff.1 h
    rw [List.append_assoc, List.singleton_append, words_append_blank isBlank_space,
      words_append_blank isBlank_space]
    simp

/-! ## Single words -/

theorem words_of_isWord {w : Text} (h : IsWord w) : words w = [w] := by
  obtain ⟨hne, hb⟩ := h
  induction w with
  | nil => exact absurd rfl hne
  | cons c w ih =>
    have hc := hb c (by simp)
    cases w with
    | nil => simp [words, hc]
    | cons d w =>
      have hd := hb d (by simp)
      rw [words]
      simp only [hc, Bool.false_eq_true, ↓reduceIte, List.head?_cons, Option.all_some, hd]
      rw [ih (by simp) fun x hx => hb x (by simp [hx])]
      rfl

theorem isWord_singleton {c : Char} (h : isBlank c = false) : IsWord [c] := ⟨by simp, by simpa using h⟩

theorem words_intercalate {ws : List Text} (h : ∀ w ∈ ws, IsWord w) : words ([' '].intercalate ws) = ws := by
  induction ws with
  | nil => rfl
  | cons w ws ih =>
    have hw := words_of_isWord (h w (by simp))
    cases ws with
    | nil => simpa using hw
    | cons v ws =>
      rw [List.intercalate_cons_cons, List.append_assoc, List.singleton_append,
        words_append_blank isBlank_space, hw, ih fun x hx => h x (by simp [hx])]
      rfl

/-- What goes on behind a character that is no blank prolongs the last word. -/
theorem words_append_isWord {c : Char} (hc : isBlank c = false) (front : Text) :
    ∃ before start, ∀ w : Text, (∀ x ∈ w, isBlank x = false) →
      words (front ++ c :: w) = before ++ [start ++ c :: w] := by
  induction front with
  | nil => exact ⟨[], [], fun w hw => words_of_isWord ⟨by simp, by simpa [hc] using hw⟩⟩
  | cons d front ih =>
    obtain ⟨before, start, ih⟩ := ih
    by_cases hd : isBlank d = true
    · exact ⟨before, start, fun w hw => by rw [List.cons_append, words_blank hd, ih w hw]⟩
    · -- whether `d` is a word of its own is settled before `w` begins
      have hhead (w : Text) : (front ++ c :: w).head? = (front ++ [c]).head? := by cases front <;> rfl
      by_cases hr : (front ++ [c]).head?.all isBlank = true
      · refine ⟨[d] :: before, start, fun w hw => ?_⟩
        rw [List.cons_append, words, if_neg hd, hhead, if_pos hr, ih w hw, List.cons_append]
      · have hjoin (w : Text) (hw : ∀ x ∈ w, isBlank x = false) :
            words (d :: front ++ c :: w) = joinWord d (before ++ [start ++ c :: w]) := by
          rw [List.cons_append, words, if_neg hd, hhead, if_neg hr, ih w hw]
        cases before with
        | nil => exact ⟨[], d :: start, hjoin⟩
        | cons v before => exact ⟨(d :: v) :: before, start, hjoin⟩

/-- Joining two rows of words, neither of them empty. -/
theorem intercalate_append {vs ws : List Text} (hv : vs ≠ []) (hw : ws ≠ []) :
    [' '].intercalate (vs ++ ws) = [' '].intercalate vs ++ ' ' :: [' '].intercalate ws := by
  induction vs with
  | nil => exact absurd rfl hv
  | cons v vs ih =>
    cases vs with
    | nil =>
      obtain ⟨w, ws, rfl⟩ := List.exists_cons_of_ne_nil hw
      simp
    | cons u vs =>
      rw [List.cons_append, List.cons_append, List.intercalate_cons_cons, ← List.cons_append, ih (by simp)]
      simp

end Calculator
