import Calculator.Proofs.CharacterScan

/-!
# What a failed token leaves behind

A yard can be fed on behind an error, from whatever the failed token has left. An operator that is refused leaves
everything as it was, so that it might as well never have come (`eraseIdx_feedEach`). A parenthesis that closes
none has written the whole stack before it fails, just as the end of the tokens would have done: the two loops, told
over the flat stack, stop with different errors in the same place (`closeLoop_stack`, `finishLoop_stack_nil`). Main
statement: these two are the only tokens that fail, and this is what they leave (`failed_feed_classified`).
-/

namespace Calculator

namespace Yard

/-! ## Feeding on behind an error -/

/-- The yard behind tokens that are fed one after the other, whatever becomes of them. -/
def feedThrough (y : Yard) (ts : List Token) : Yard := ts.foldl (fun y t => (y.feed t).yard) y

/-- What each token comes to when they are fed one after the other, whatever becomes of them. -/
def feedEach (y : Yard) : List Token → List Fed
  | [] => []
  | t :: later => y.feed t :: (y.feed t).yard.feedEach later

theorem feedThrough_append (y : Yard) (front later : List Token) :
    y.feedThrough (front ++ later) = (y.feedThrough front).feedThrough later := List.foldl_append

theorem feedThrough_concat (y : Yard) (ts : List Token) (t : Token) :
    y.feedThrough (ts ++ [t]) = ((y.feedThrough ts).feed t).yard := y.feedThrough_append ts [t]

theorem feedThrough_cons (y : Yard) (t : Token) (later : List Token) :
    y.feedThrough (t :: later) = (y.feed t).yard.feedThrough later := rfl

theorem feedEach_append (y : Yard) (front later : List Token) :
    y.feedEach (front ++ later) = y.feedEach front ++ (y.feedThrough front).feedEach later := by
  induction front generalizing y with
  | nil => rfl
  | cons t front ih => exact congrArg (y.feed t :: ·) (ih (y.feed t).yard)

theorem length_feedEach (y : Yard) (ts : List Token) : (y.feedEach ts).length = ts.length := by
  induction ts generalizing y with
  | nil => rfl
  | cons t ts ih => exact congrArg (· + 1) (ih (y.feed t).yard)

variable {y : Yard} {t : Token} {front : List Token}

/-- A token that leaves the yard as it was has no influence on what the others come to. -/
theorem eraseIdx_feedEach (h : ((y.feedThrough front).feed t).yard = y.feedThrough front) (later : List Token) :
    (y.feedEach (front ++ t :: later)).eraseIdx front.length = y.feedEach (front ++ later) := by
  have hlength := length_feedEach y front
  rw [feedEach_append, feedEach_append, feedEach, h, ← hlength, List.eraseIdx_append_of_length_le (Nat.le_refl _),
    Nat.sub_self, List.eraseIdx_cons_zero]

/-- Nor has it on the yard behind them. -/
theorem feedThrough_of_unchanged (h : ((y.feedThrough front).feed t).yard = y.feedThrough front)
    (later : List Token) : y.feedThrough (front ++ t :: later) = y.feedThrough (front ++ later) := by
  rw [feedThrough_append, feedThrough_append, feedThrough_cons, h]

/-! ## Open parentheses on the stack -/

theorem leftParen_notMem_entries (level : List Operator) : .leftParen ∉ entries level := by
  simp [entries]

/-- The stack holds no parenthesis just if there is no level around the innermost one. -/
theorem leftParen_mem_stack_iff (y : Yard) : .leftParen ∈ y.stack ↔ y.outer ≠ [] := by
  rw [stack, List.mem_append, or_iff_right (leftParen_notMem_entries y.level)]
  cases y.outer with
  | nil => simp
  | cons level outer => simp

theorem outer_eq_nil_of_notMem (h : .leftParen ∉ y.stack) : y.outer = [] := by
  rwa [leftParen_mem_stack_iff, Decidable.not_not] at h

/-! ## One token -/

theorem feed_of_literal (y : Yard) (h : t.kind = .literal) : y.feed t = ⟨none, y.write t.lexeme⟩ := by
  simp only [feed_eq_step, Token.terminal, h, step_literal]

theorem feed_of_leftParen (y : Yard) (h : t.kind = .leftParen) : y.feed t = ⟨none, y.enter⟩ := by
  simp only [feed_eq_step, Token.terminal, h, step_leftParen]

theorem feed_of_rightParen_nil (h : t.kind = .rightParen) (outside : y.outer = []) :
    y.feed t = ⟨some .missingLeftParenthesis, y.drain⟩ := by
  simp only [feed_eq_step, Token.terminal, h, step_rightParen_nil outside]

theorem feed_of_rightParen_cons {level : List Operator} {outer : List (List Operator)} (h : t.kind = .rightParen)
    (inside : y.outer = level :: outer) : y.feed t = ⟨none, y.leave level outer⟩ := by
  simp only [feed_eq_step, Token.terminal, h, step_rightParen_cons inside]

theorem feed_of_operator_none {op : Operator} (h : t.kind = .operator op) (free : y.adjacency? op = none) :
    y.feed t = ⟨none, y.place op⟩ := by
  simp only [feed_eq_step, Token.terminal, h, step_operator_none free]

theorem feed_of_operator_some {op : Operator} {e : ExpressionError} (h : t.kind = .operator op)
    (taken : y.adjacency? op = some e) : y.feed t = ⟨some e, y⟩ := by
  simp only [feed_eq_step, Token.terminal, h, step_operator_some taken]

theorem error?_feed_of_literal (y : Yard) (h : t.kind = .literal) : (y.feed t).error? = none := by
  rw [y.feed_of_literal h]

theorem error?_feed_of_leftParen (y : Yard) (h : t.kind = .leftParen) : (y.feed t).error? = none := by
  rw [y.feed_of_leftParen h]

/-- A parenthesis that closes finds one that is open on the stack, or it drains the yard and fails. -/
theorem feed_rightParen (y : Yard) (h : t.kind = .rightParen) :
    .leftParen ∈ y.stack ∧ (y.feed t).error? = none ∨
      .leftParen ∉ y.stack ∧ y.feed t = ⟨some .missingLeftParenthesis, y.drain⟩ := by
  rw [leftParen_mem_stack_iff]
  cases houter : y.outer with
  | nil => exact .inr ⟨by simp, feed_of_rightParen_nil h houter⟩
  | cons level outer => exact .inl ⟨by simp, by rw [feed_of_rightParen_cons h houter]⟩

theorem closeLoop_of_rightParen (y : Yard) (h : t.kind = .rightParen) :
    Scan.closeLoop y.stack y.output = ⟨(y.feed t).error?, (y.feed t).yard.scan⟩ := by
  have hstep : y.feed t = y.step .rightParen := by simp only [feed_eq_step, Token.terminal, h]
  rw [hstep, closeLoop_stack]

/-- An operator is placed, or it is refused and changes nothing. -/
theorem feed_operator (y : Yard) {op : Operator} (h : t.kind = .operator op) :
    (y.feed t).error? = none ∨ ∃ p, y.feed t = ⟨some (.adjacentOperators p op.symbol), y⟩ := by
  cases hadj : y.adjacency? op with
  | none => exact .inl (by rw [feed_of_operator_none h hadj])
  | some e =>
    right
    rw [feed_of_operator_some h hadj]
    simp only [adjacency?] at hadj
    split at hadj
    · obtain ⟨top, -, rfl⟩ := Option.map_eq_some_iff.1 hadj
      exact ⟨top.symbol, rfl⟩
    · cases hadj

/-- What an error leaves: the yard drained, where a parenthesis closes none, or the yard as it was. -/
theorem feed_error_cases {e : ExpressionError} (h : (y.feed t).error? = some e) :
    (e = .missingLeftParenthesis ∧ y.outer = [] ∧ (y.feed t).yard = y.drain) ∨
      ∃ p o, e = .adjacentOperators p o ∧ (y.feed t).yard = y := by
  cases hkind : t.kind with
  | literal =>
    rw [y.error?_feed_of_literal hkind] at h
    cases h
  | leftParen =>
    rw [y.error?_feed_of_leftParen hkind] at h
    cases h
  | rightParen =>
    cases houter : y.outer with
    | nil =>
      rw [feed_of_rightParen_nil hkind houter] at h ⊢
      cases h
      exact .inl ⟨rfl, rfl, rfl⟩
    | cons level outer =>
      rw [feed_of_rightParen_cons hkind houter] at h
      cases h
  | operator op =>
    rcases y.feed_operator hkind with hfed | ⟨p, hfed⟩
    · rw [hfed] at h
      cases h
    · rw [hfed] at h ⊢
      cases h
      exact .inr ⟨p, op.symbol, rfl, rfl⟩

/-- A token that is refused for its neighbour leaves the yard as it was. -/
theorem yard_feed_of_adjacent {p o : Char} (h : (y.feed t).error? = some (.adjacentOperators p o)) :
    (y.feed t).yard = y := by
  rcases feed_error_cases h with ⟨herror, -⟩ | ⟨-, -, -, hsame⟩
  · cases herror
  · exact hsame

/-- A parenthesis that closes none drains the yard. -/
theorem yard_feed_of_missing (h : (y.feed t).error? = some .missingLeftParenthesis) :
    y.outer = [] ∧ (y.feed t).yard = y.drain := by
  rcases feed_error_cases h with ⟨-, houter, hdrain⟩ | ⟨p, o, herror, -⟩
  · exact ⟨houter, hdrain⟩
  · cases herror

/-- However a yard has been fed so far: literals and parentheses that open never fail. An operator that is refused
leaves stack and text as they were, and all that is fed behind it comes to what it would have come to without it. A
parenthesis that closes comes to what its loop over the flat stack comes to. It fails just if none is open on the
stack; then the stack is left empty, and the text is the one that the yard would have finished with. -/
theorem failed_feed_classified (front : List Token) (t : Token) :
    let y := ({} : Yard).feedThrough front
    (t.kind = .literal ∨ t.kind = .leftParen → (y.feed t).error? = none) ∧
    (∀ p o, (y.feed t).error? = some (.adjacentOperators p o) →
      (y.feed t).yard.stack = y.stack ∧ (y.feed t).yard.output = y.output ∧
      ∀ later, (({} : Yard).feedEach (front ++ t :: later)).eraseIdx front.length =
          ({} : Yard).feedEach (front ++ later) ∧
        (({} : Yard).feedThrough (front ++ t :: later)).finish = (({} : Yard).feedThrough (front ++ later)).finish) ∧
    (t.kind = .rightParen →
      (y.feed t).error? = (if .leftParen ∈ y.stack then none else some .missingLeftParenthesis) ∧
      Scan.closeLoop y.stack y.output = ⟨(y.feed t).error?, (y.feed t).yard.scan⟩ ∧
      (.leftParen ∉ y.stack → (y.feed t).yard.stack = [] ∧ y.finish = .ok (y.feed t).yard.output ∧
        Scan.finishLoop y.stack y.output = ⟨none, (y.feed t).yard.scan⟩)) := by
  intro y
  refine ⟨?_, fun p o hadj => ?_, fun hkind => ?_⟩
  · rintro (hkind | hkind)
    · exact y.error?_feed_of_literal hkind
    · exact y.error?_feed_of_leftParen hkind
  · have hsame : (y.feed t).yard = y := yard_feed_of_adjacent hadj
    refine ⟨by rw [hsame], by rw [hsame], fun later => ⟨eraseIdx_feedEach hsame later, ?_⟩⟩
    rw [feedThrough_of_unchanged hsame]
  · have hclose := y.closeLoop_of_rightParen hkind
    rcases y.feed_rightParen hkind with ⟨hmem, hfed⟩ | ⟨hno, hfed⟩
    · exact ⟨by rw [hfed, if_pos hmem], hclose, fun hno => absurd hmem hno⟩
    · have houter := outer_eq_nil_of_notMem hno
      rw [hfed] at hclose
      rw [if_neg hno, hfed]
      refine ⟨rfl, hclose, fun _ => ⟨stack_drain_of_outer_nil houter, ?_, finishLoop_stack_nil houter⟩⟩
      rw [finish, houter]

/-- In `1+*2)3` the `*` is refused and leaves no trace, and the `)` has written the `+` before it fails. -/
example : (({} : Yard).feedThrough (tokens ['1', '+', '*', '2', ')', '3'])).output = ['1', ' ', '2', ' ', '+', '3'] :=
  rfl

end Yard

end Calculator
