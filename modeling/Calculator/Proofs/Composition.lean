import Calculator.Proofs.Acceptance

/-!
# One row of words behind another

The stack machine goes on with whatever stack it has: a row behind another runs on the stack that the first one
leaves (`takeWords_append`), and a blank is enough to keep the two rows apart (`words_apart`). Main statement: behind
any postfix text that runs without error, an expression in postorder has the value that it has alone, and everything
that the text has left lies below it as before (`evaluatePostfix_behind`).
-/

namespace Calculator

/-! ## Words with blanks between them -/

/-- The texts that write the words in order: blanks around them as one likes, and at least one between each two. -/
inductive Spaced : List Text → Text → Prop
  | nil {gap : Text} (blank : isBlankText gap = true) : Spaced [] gap
  | last {gap w : Text} (blank : isBlankText gap = true) : Spaced [w] (gap ++ w)
  | cons {gap w text : Text} {b : Char} {ws : List Text} (blank : isBlankText gap = true)
      (behind : isBlank b = true) (rest : Spaced ws text) : Spaced (w :: ws) (gap ++ w ++ b :: text)

theorem words_blank_append {gap : Text} (h : isBlankText gap = true) (text : Text) :
    words (gap ++ text) = words text := by
  induction gap with
  | nil => rfl
  | cons c gap ih =>
    rw [isBlankText_cons] at h
    rw [List.cons_append, words_blank h.1, ih h.2]

theorem words_of_spaced {ws : List Text} {text : Text} (h : Spaced ws text) (hws : ∀ w ∈ ws, IsWord w) :
    words text = ws := by
  induction h with
  | nil blank => exact (words_eq_nil_iff _).2 blank
  | @last gap w blank => rw [words_blank_append blank, words_of_isWord (hws w (by simp))]
  | @cons gap w text b ws blank behind rest ih =>
    have hrest : words text = ws := ih fun v hv => hws v (by simp [hv])
    rw [words_append_blank behind, words_blank_append blank, words_of_isWord (hws w (by simp)), hrest]
    rfl

/-! ## Two rows -/

/-- Two texts have their own words where a blank keeps them apart, and where the first one has no words at all. -/
theorem words_apart {front gap : Text} (hgap : isBlankText gap = true) (hmeet : gap = [] → isBlankText front = true)
    (text : Text) : words (front ++ gap ++ text) = words front ++ words text := by
  cases gap with
  | nil =>
    have hfront := hmeet rfl
    rw [List.append_nil, words_blank_append hfront, (words_eq_nil_iff front).2 hfront, List.nil_append]
  | cons b gap =>
    obtain ⟨hb, hgap⟩ := isBlankText_cons.1 hgap
    rw [List.append_assoc, List.cons_append, words_append_blank hb, words_blank_append hgap]

/-- A text that has nothing to run or that runs without error leaves some stack. -/
theorem exists_finalStack_of_runs {text : Text}
    (h : isBlankText text = true ∨ ∃ v, evaluatePostfix text = .ok v) : ∃ stack, finalStack text = .ok stack := by
  rcases h with h | ⟨v, hv⟩
  · exact ⟨[], finalStack_of_isBlankText h⟩
  · obtain ⟨below, hbelow, -⟩ := exists_finalStack hv
    exact ⟨v :: below, hbelow⟩

/-- The value of a text is on top of the stack that it leaves. -/
theorem evaluatePostfix_of_finalStack {text : Text} {r : Except ExpressionError Decimal} {below : List Decimal}
    (h : finalStack text = r.map (· :: below)) : evaluatePostfix text = r := by
  rw [evaluatePostfix_eq_finalStack, h]
  cases r <;> rfl

/-! ## An expression behind a text -/

/-- Behind a text that is blank or runs without error, an expression in postorder has its own value, or its own
error; on the stack the value lies on what the text has left. -/
theorem evaluatePostfix_behind {front gap text : Text} {e : Expression}
    (hfront : isBlankText front = true ∨ ∃ v, evaluatePostfix front = .ok v) (hgap : isBlankText gap = true)
    (hmeet : gap = [] → isBlankText front = true)
    (hleaves : ∀ w ∈ e.leaves, IsWord w ∧ ∀ op : Operator, w ≠ [op.symbol]) (htext : Spaced e.postorder text) :
    evaluatePostfix (front ++ gap ++ text) = e.value ∧
      ∃ below, finalStack front = .ok below ∧ finalStack (front ++ gap ++ text) = e.value.map (· :: below) := by
  obtain ⟨below, hbelow⟩ := exists_finalStack_of_runs hfront
  have hoperands : ∀ w ∈ e.leaves, Operator.ofWord? w = none := fun w hw =>
    Operator.ofWord?_eq_none_iff.2 (hleaves w hw).2
  have hwords : words text = e.postorder :=
    words_of_spaced htext (Expression.isWord_of_mem_postorder fun w hw => (hleaves w hw).1)
  have hfinal : finalStack (front ++ gap ++ text) = e.value.map (· :: below) := by
    have hrun := Expression.takeWords_postorder hoperands below []
    rw [List.append_nil] at hrun
    rw [finalStack] at hbelow ⊢
    rw [words_apart hgap hmeet, takeWords_append, hbelow, hwords]
    simp only [hrun]
    cases e.value <;> rfl
  exact ⟨evaluatePostfix_of_finalStack hfinal, below, hbelow, hfinal⟩

/-- Behind `1 2 7 +`, which leaves 9 and 1, the row of `-3-10*4` comes to -43, and 9 and 1 are below. -/
theorem evaluatePostfix_behind_leftovers :
    evaluatePostfix (['1', ' ', '2', ' ', '7', ' ', '+'] ++ ['\t', ' '] ++
        ['-', '3', ' ', '1', '0', '\n', ' ', '4', ' ', '*', ' ', '-']) =
      .ok ⟨true, 43, 0, by decide, by decide⟩ ∧
    finalStack (['1', ' ', '2', ' ', '7', ' ', '+'] ++ ['\t', ' '] ++
        ['-', '3', ' ', '1', '0', '\n', ' ', '4', ' ', '*', ' ', '-']) =
      .ok [⟨true, 43, 0, by decide, by decide⟩, ⟨false, 9, 0, by decide, by decide⟩,
        ⟨false, 1, 0, by decide, by decide⟩] := by
  have hfront : evaluatePostfix ['1', ' ', '2', ' ', '7', ' ', '+'] = .ok ⟨false, 9, 0, by decide, by decide⟩ := rfl
  have hnine : finalStack ['1', ' ', '2', ' ', '7', ' ', '+'] =
      .ok [⟨false, 9, 0, by decide, by decide⟩, ⟨false, 1, 0, by decide, by decide⟩] := rfl
  have hspaced : Spaced [['-', '3'], ['1', '0'], ['4'], ['*'], ['-']]
      ['-', '3', ' ', '1', '0', '\n', ' ', '4', ' ', '*', ' ', '-'] := by
    refine @Spaced.cons [] ['-', '3'] ['1', '0', '\n', ' ', '4', ' ', '*', ' ', '-'] ' ' _ rfl (by decide) ?_
    refine @Spaced.cons [] ['1', '0'] [' ', '4', ' ', '*', ' ', '-'] '\n' _ rfl (by decide) ?_
    refine @Spaced.cons [' '] ['4'] ['*', ' ', '-'] ' ' _ (by decide) (by decide) ?_
    exact @Spaced.cons [] ['*'] ['-'] ' ' _ rfl (by decide) (@Spaced.last [] ['-'] rfl)
  have hleaves : ∀ w ∈ [['-', '3'], ['1', '0'], ['4']], IsWord w ∧ ∀ op : Operator, w ≠ [op.symbol] := by
    intro w hw
    simp only [List.mem_cons, List.not_mem_nil, or_false] at hw
    rcases hw with rfl | rfl | rfl
    · exact ⟨⟨nofun, by simp; decide⟩, fun op => by simp⟩
    · exact ⟨⟨nofun, by simp; decide⟩, fun op => by simp⟩
    · exact ⟨⟨nofun, by simp; decide⟩, fun op => by cases op <;> decide⟩
  have hvalue : (Expression.binary .sub (.literal ['-', '3']) (.binary .mul (.literal ['1', '0']) (.literal ['4']))).value =
      .ok ⟨true, 43, 0, by decide, by decide⟩ := rfl
  obtain ⟨htop, below, hbelow, hfinal⟩ := @evaluatePostfix_behind _ ['\t', ' '] _
    (.binary .sub (.literal ['-', '3']) (.binary .mul (.literal ['1', '0']) (.literal ['4'])))
    (.inr ⟨_, hfront⟩) (by decide) nofun hleaves hspaced
  cases hnine.symm.trans hbelow
  rw [hvalue] at htop hfinal
  exact ⟨htop, hfinal⟩

end Calculator
