import Calculator.Proofs.Scanning

/-!
# Runs of the yard

Places of tokens mean nothing to the yard, so that a run can be told by terminals alone (`feedAll_eq_read`).
A conversion reads the terminals of the text and finishes (`toPostfix_eq_read`).
-/

namespace Calculator

/-- The terminal as a token in some place. -/
def Terminal.token : Terminal → Token
  | operator op => ⟨.operator op, [op.symbol], .start⟩
  | leftParen => ⟨.leftParen, ['('], .start⟩
  | rightParen => ⟨.rightParen, [')'], .start⟩
  | literal w => ⟨.literal, w, .start⟩

namespace Yard

/-- Feeds one terminal. -/
def step (y : Yard) (t : Terminal) : Fed := y.feed t.token

/-- Feeds terminals until one of them raises an error. -/
def read (y : Yard) (ts : List Terminal) : Except ExpressionError Yard := y.feedAll (ts.map Terminal.token)

def enter (y : Yard) : Yard := { y with level := [], outer := y.level :: y.outer }

/-- The yard behind a parenthesis that closes: all that waits in it is written, and the level around it
goes on. -/
def leave (y : Yard) (level : List Operator) (outer : List (List Operator)) : Yard :=
  { y.drain with level := level, outer := outer }

theorem stack_eq_of_outer_nil {y : Yard} (h : y.outer = []) : y.stack = entries y.level := by
  simp [stack, h]

/-- Below its innermost level a yard has a parenthesis and the stack that this parenthesis leaves when it closes. -/
theorem stack_eq_of_outer_cons {y : Yard} {level : List Operator} {outer : List (List Operator)}
    (h : y.outer = level :: outer) : y.stack = entries y.level ++ .leftParen :: (y.leave level outer).stack := by
  simp [stack, leave, h]

theorem stack_drain_of_outer_nil {y : Yard} (h : y.outer = []) : y.drain.stack = [] :=
  stack_eq_of_outer_nil ((outer_emitAll y y.level).trans h)

theorem feed_eq_step (y : Yard) (t : Token) : y.feed t = y.step t.terminal := by
  obtain ⟨kind, lexeme, place⟩ := t
  cases kind <;> rfl

theorem feedAll_eq_read (y : Yard) (ts : List Token) : y.feedAll ts = y.read (ts.map Token.terminal) := by
  induction ts generalizing y with
  | nil => rfl
  | cons t ts ih =>
    have hs : y.feed t.terminal.token = y.feed t := (feed_eq_step y t).symm
    simp only [read, List.map_cons, feedAll, hs] at ih ⊢
    split
    · rfl
    · exact ih _

/-! ## One terminal -/

@[simp] theorem step_literal (y : Yard) (w : Text) : y.step (.literal w) = ⟨none, y.write w⟩ := rfl

@[simp] theorem step_leftParen (y : Yard) : y.step .leftParen = ⟨none, y.enter⟩ := rfl

theorem step_rightParen_nil {y : Yard} (h : y.outer = []) :
    y.step .rightParen = ⟨some .missingLeftParenthesis, y.drain⟩ := by
  simp [step, feed, Terminal.token, h]

theorem step_rightParen_cons {y : Yard} {level : List Operator} {outer : List (List Operator)}
    (h : y.outer = level :: outer) : y.step .rightParen = ⟨none, y.leave level outer⟩ := by
  simp [step, feed, Terminal.token, leave, h]

theorem step_operator_some {y : Yard} {op : Operator} {e : ExpressionError} (h : y.adjacency? op = some e) :
    y.step (.operator op) = ⟨some e, y⟩ := by
  simp [step, feed, Terminal.token, h]

theorem step_operator_none {y : Yard} {op : Operator} (h : y.adjacency? op = none) :
    y.step (.operator op) = ⟨none, y.place op⟩ := by
  simp [step, feed, Terminal.token, h]

theorem adjacency?_of_not_endsBlank {y : Yard} (h : y.endsBlank = false) (op : Operator) :
    y.adjacency? op = none := by
  simp [adjacency?, h]

/-- The step that a terminal takes when it raises no error. -/
inductive Moves (y : Yard) : Terminal → Yard → Prop
  | literal (w : Text) : Moves y (.literal w) (y.write w)
  | leftParen : Moves y .leftParen y.enter
  | rightParen {level : List Operator} {outer : List (List Operator)} (inside : y.outer = level :: outer) :
      Moves y .rightParen (y.leave level outer)
  | operator {op : Operator} (free : y.adjacency? op = none) : Moves y (.operator op) (y.place op)

theorem step_eq_none_iff {y z : Yard} {t : Terminal} : y.step t = ⟨none, z⟩ ↔ y.Moves t z := by
  constructor
  · intro h
    cases t with
    | literal w =>
      cases h
      exact .literal w
    | leftParen =>
      cases h
      exact .leftParen
    | rightParen =>
      cases ho : y.outer with
      | nil => cases (step_rightParen_nil ho).symm.trans h
      | cons level outer =>
        cases (step_rightParen_cons ho).symm.trans h
        exact .rightParen ho
    | operator op =>
      cases hadj : y.adjacency? op with
      | some e => cases (step_operator_some hadj).symm.trans h
      | none =>
        cases (step_operator_none hadj).symm.trans h
        exact .operator hadj
  · intro h
    cases h with
    | literal w => exact step_literal y w
    | leftParen => exact step_leftParen y
    | rightParen inside => exact step_rightParen_cons inside
    | operator free => exact step_operator_none free

/-! ## Several terminals -/

@[simp] theorem read_nil (y : Yard) : y.read [] = .ok y := rfl

theorem read_cons_of_error {y : Yard} {t : Terminal} {e : ExpressionError} (h : (y.step t).error? = some e)
    (ts : List Terminal) : y.read (t :: ts) = .error e := by
  simp only [read, List.map_cons, feedAll, ← step.eq_1]
  revert h
  rcases y.step t with ⟨_ | _, _⟩ <;> intro h <;> cases h
  rfl

theorem read_cons_of_ok {y z : Yard} {t : Terminal} (h : y.step t = ⟨none, z⟩) (ts : List Terminal) :
    y.read (t :: ts) = z.read ts := by
  simp only [read, List.map_cons, feedAll, ← step.eq_1, h]

theorem read_append (y : Yard) (ts us : List Terminal) :
    y.read (ts ++ us) =
      match y.read ts with
      | .error e => .error e
      | .ok z => z.read us := by
  induction ts generalizing y with
  | nil => rfl
  | cons t ts ih =>
    rcases h : y.step t with ⟨_ | e, z⟩
    · rw [List.cons_append, read_cons_of_ok h, read_cons_of_ok h, ih]
    · have he : (y.step t).error? = some e := by rw [h]
      rw [List.cons_append, read_cons_of_error he, read_cons_of_error he]

theorem read_append_of_ok {y z : Yard} {ts : List Terminal} (h : y.read ts = .ok z) (us : List Terminal) :
    y.read (ts ++ us) = z.read us := by
  rw [read_append, h]

theorem read_append_eq_ok {y z : Yard} {ts us : List Terminal} (h : y.read (ts ++ us) = .ok z) :
    ∃ x, y.read ts = .ok x ∧ x.read us = .ok z := by
  rw [read_append] at h
  split at h
  · cases h
  next x hx => exact ⟨x, hx, h⟩

theorem read_cons_eq_ok {y z : Yard} {t : Terminal} {ts : List Terminal} (h : y.read (t :: ts) = .ok z) :
    ∃ x, y.Moves t x ∧ x.read ts = .ok z := by
  rcases hs : y.step t with ⟨_ | e, x⟩
  · rw [read_cons_of_ok hs] at h
    exact ⟨x, step_eq_none_iff.1 hs, h⟩
  · have he : (y.step t).error? = some e := by rw [hs]
    rw [read_cons_of_error he] at h
    cases h

/-- A yard that finishes has no parenthesis open, and writes what waits. -/
theorem finish_eq_ok {y : Yard} {text : Text} (h : y.finish = .ok text) : y.outer = [] ∧ text = y.drain.output := by
  unfold finish at h
  split at h
  next houter =>
    cases h
    exact ⟨houter, rfl⟩
  · cases h

end Yard

theorem toPostfix_eq_read {source : Text} (h : isBlankText source = false) :
    toPostfix source =
      match ({} : Yard).read (terminals source) with
      | .error e => .error e
      | .ok y => y.finish := by
  have hfeed := Yard.feedAll_eq_read {} (tokens source)
  rw [toPostfix, h, hfeed]
  rfl

/-- A conversion that succeeds has read its terminals without an error. -/
theorem exists_read_of_toPostfix {source text : Text} (h : toPostfix source = .ok text) :
    ∃ z, ({} : Yard).read (terminals source) = .ok z ∧ z.finish = .ok text := by
  have hblank : isBlankText source = false := by
    refine Bool.eq_false_iff.2 fun hb => ?_
    simp [toPostfix, hb] at h
  rw [toPostfix_eq_read hblank] at h
  split at h
  · cases h
  next z hz => exact ⟨z, hz, h⟩

end Calculator
