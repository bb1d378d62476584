import Calculator.Proofs.Machine
import Calculator.Proofs.Words

/-!
# Expression trees

An expression has a value of its own, found by recursion, and a row of words that writes it in
postorder. Main statement: the stack machine computes the value from the row, whatever lies on the stack
before and whatever words follow (`takeWords_postorder`).
-/

namespace Calculator

/-- An expression: a number as it is written, or an operator between two expressions. -/
inductive Expression where
  | literal (text : Text)
  | binary (op : Operator) (left right : Expression)
deriving DecidableEq, Repr

namespace Expression

/-- The value of an expression: the left operand comes first, then the right one, then the operator;
the first error on the way is the result. -/
def value : Expression → Except ExpressionError Decimal
  | literal text => operand text
  | binary op left right =>
    match left.value with
    | .error e => .error e
    | .ok a =>
      match right.value with
      | .error e => .error e
      | .ok b => op.apply a b

/-- The words of an expression in postorder: the left operand, the right one, the operator. -/
def postorder : Expression → List Text
  | literal text => [text]
  | binary op left right => left.postorder ++ right.postorder ++ [[op.symbol]]

/-- The numbers of an expression from left to right. -/
def leaves : Expression → List Text
  | literal text => [text]
  | binary _ left right => left.leaves ++ right.leaves

theorem postorder_ne_nil (e : Expression) : e.postorder ≠ [] := by
  cases e <;> simp [postorder]

theorem mem_postorder {e : Expression} {w : Text} (h : w ∈ e.postorder) :
    w ∈ e.leaves ∨ ∃ op : Operator, w = [op.symbol] := by
  induction e with
  | literal text => exact .inl h
  | binary op left right ihl ihr =>
    simp only [postorder, List.mem_append, List.mem_singleton] at h
    rcases h with (h | h) | rfl
    · exact (ihl h).imp_left fun hw => by simp [leaves, hw]
    · exact (ihr h).imp_left fun hw => by simp [leaves, hw]
    · exact .inr ⟨op, rfl⟩

theorem isWord_of_mem_postorder {e : Expression} (h : ∀ w ∈ e.leaves, IsWord w) :
    ∀ w ∈ e.postorder, IsWord w := by
  intro w hw
  rcases mem_postorder hw with hw | ⟨op, rfl⟩
  · exact h w hw
  · exact isWord_singleton (by cases op <;> decide)

/-! ## The machine and the tree -/

/-- Behind the words of an expression the machine goes on with its value on top, or has stopped with
its error. -/
theorem takeWords_postorder {e : Expression} (h : ∀ w ∈ e.leaves, Operator.ofWord? w = none)
    (stack : List Decimal) (later : List Text) :
    takeWords stack (e.postorder ++ later) =
      match e.value with
      | .error err => .error err
      | .ok v => takeWords (v :: stack) later := by
  induction e generalizing stack later with
  | literal text =>
    have ht : Operator.ofWord? text = none := h text (by simp [leaves])
    simp only [postorder, List.singleton_append, takeWords, takeWord_of_ofWord?_eq_none ht, value]
    cases operand text <;> rfl
  | binary op left right ihl ihr =>
    have hl : ∀ w ∈ left.leaves, Operator.ofWord? w = none := fun w hw => h w (by simp [leaves, hw])
    have hr : ∀ w ∈ right.leaves, Operator.ofWord? w = none := fun w hw => h w (by simp [leaves, hw])
    simp only [postorder, List.append_assoc, ihl hl, value]
    cases left.value with
    | error err => rfl
    | ok a =>
      simp only [ihr hr]
      cases right.value with
      | error err => rfl
      | ok b =>
        simp only [List.singleton_append, takeWords, takeWord_symbol, reduce_symbol]
        cases op.apply a b <;> rfl

theorem evaluatePostfix_of_words {e : Expression} (h : ∀ w ∈ e.leaves, Operator.ofWord? w = none)
    {text : Text} (ht : words text = e.postorder) : evaluatePostfix text = e.value := by
  have hrun := takeWords_postorder h [] []
  rw [List.append_nil] at hrun
  rw [evaluatePostfix_eq_finalStack, finalStack, ht, hrun]
  cases e.value <;> rfl

end Expression

/-! ## Errors that a tree cannot have -/

/-- The errors that blame the form of an expression; the others blame its numbers. -/
def ExpressionError.isStructural : ExpressionError → Bool
  | emptyExpression | adjacentOperators _ _ | missingLeftParenthesis | missingRightParenthesis
  | tooManyOperators | unsupportedOperator _ => true
  | invalidNumber _ | divideByZero | numericOverflow => false

theorem isStructural_of_operand {w : Text} {err : ExpressionError} (h : operand w = .error err) :
    err.isStructural = false := by
  unfold operand at h
  split at h
  · cases h; rfl
  · split at h <;> cases h
    rfl

theorem isStructural_of_apply {op : Operator} {a b : Decimal} {err : ExpressionError}
    (h : op.apply a b = .error err) : err.isStructural = false := by
  simp only [Operator.apply] at h
  split at h
  · cases h; rfl
  · split at h <;> cases h
    rfl

theorem Expression.isStructural_of_value {e : Expression} {err : ExpressionError} (h : e.value = .error err) :
    err.isStructural = false := by
  induction e with
  | literal text => exact isStructural_of_operand h
  | binary op left right ihl ihr =>
    simp only [value] at h
    cases hl : left.value with
    | error e =>
      simp only [hl] at h ihl
      exact ihl h
    | ok a =>
      cases hr : right.value with
      | error e =>
        simp only [hl, hr] at h ihr
        exact ihr h
      | ok b =>
        simp only [hl, hr] at h
        exact isStructural_of_apply h

end Calculator
