import Calculator.Reduction

/-!
# The stack machine

A word that names an operator needs two values on the stack and puts the result in their place; any other word is a
number and goes on top (`takeWord_ok_cases`). So there are three reasons for a word to fail (`takeWord_error_cases`).
A row of words fails with the error of the first word that fails (`takeWords_eq_error_iff`). The check for a blank text
anticipates what its empty stack would come to (`evaluatePostfix_eq_finalStack`).
-/

namespace Calculator

variable {stack next final : List Decimal} {w : Text} {later ws : List Text} {e : ExpressionError}

/-! ## One word -/

theorem Operator.ofWord?_eq_some_iff {op : Operator} : ofWord? w = some op ↔ w = [op.symbol] := by
  constructor
  · intro h
    match w, h with
    | [c], h => rw [ofSymbol?_eq_some_iff.1 h]
  · rintro rfl
    exact ofSymbol?_symbol op

theorem Operator.ofWord?_eq_none_iff : ofWord? w = none ↔ ∀ op : Operator, w ≠ [op.symbol] := by
  rw [Option.eq_none_iff_forall_ne_some]
  exact forall_congr' fun op => not_congr ofWord?_eq_some_iff

/-- A word is taken for an operator just if it names one, and its symbol is the operator's own. -/
theorem operatorSymbol?_eq_map (w : Text) : operatorSymbol? w = (Operator.ofWord? w).map Operator.symbol := by
  match w with
  | [] => rfl
  | [c] =>
    cases hc : Operator.ofSymbol? c with
    | none => simp [operatorSymbol?, Operator.ofWord?, hc]
    | some op => simp [operatorSymbol?, Operator.ofWord?, Operator.ofSymbol?_eq_some_iff.1 hc]
  | _ :: _ :: _ => rfl

/-- The symbol of an operator is never unsupported: all that counts is what it makes of the two values on top. -/
theorem reduce_symbol (op : Operator) (left right : Decimal) (below : List Decimal) :
    reduce op.symbol (right :: left :: below) =
      match op.apply left right with
      | .error e => .error e
      | .ok value => .ok (value :: below) := by
  cases happly : op.apply left right <;> simp only [reduce, op.ofSymbol_symbol, happly]

theorem takeWord_symbol (stack : List Decimal) (op : Operator) :
    takeWord stack [op.symbol] = reduce op.symbol stack := by
  rw [takeWord, operatorSymbol?_eq_map, Operator.ofWord?_eq_some_iff.2 rfl]
  rfl

theorem takeWord_of_ofWord?_eq_none (h : Operator.ofWord? w = none) (stack : List Decimal) :
    takeWord stack w =
      match operand w with
      | .error e => .error e
      | .ok value => .ok (value :: stack) := by
  rw [takeWord, operatorSymbol?_eq_map, h]
  rfl

/-- A word that does not fail is an operator, which joins the two values on top, or a number. -/
theorem takeWord_ok_cases (h : takeWord stack w = .ok next) :
    (∃ (op : Operator) (left right value : Decimal) (below : List Decimal), w = [op.symbol] ∧
      stack = right :: left :: below ∧ op.apply left right = .ok value ∧ next = value :: below) ∨
      (∀ op : Operator, w ≠ [op.symbol]) ∧ ∃ value, operand w = .ok value ∧ next = value :: stack := by
  cases hword : Operator.ofWord? w with
  | some op =>
    obtain rfl := Operator.ofWord?_eq_some_iff.1 hword
    rw [takeWord_symbol] at h
    match stack, h with
    | right :: left :: below, h =>
      rw [reduce_symbol] at h
      split at h <;> cases h
      next value happly => exact .inl ⟨op, left, right, value, below, rfl, rfl, happly, rfl⟩
  | none =>
    rw [takeWord_of_ofWord?_eq_none hword] at h
    split at h <;> cases h
    next value hoperand => exact .inr ⟨Operator.ofWord?_eq_none_iff.1 hword, value, hoperand, rfl⟩

/-- A word that fails is an operator that finds too few values, an operator that has no result for the two on top, or
no number. -/
theorem takeWord_error_cases (h : takeWord stack w = .error e) :
    ((∃ op : Operator, w = [op.symbol]) ∧ stack.length ≤ 1 ∧ e = .tooManyOperators) ∨
      (∃ (op : Operator) (left right : Decimal) (below : List Decimal), w = [op.symbol] ∧
        stack = right :: left :: below ∧ op.apply left right = .error e) ∨
      (∀ op : Operator, w ≠ [op.symbol]) ∧ operand w = .error e := by
  cases hword : Operator.ofWord? w with
  | some op =>
    obtain rfl := Operator.ofWord?_eq_some_iff.1 hword
    rw [takeWord_symbol] at h
    match stack, h with
    | [], h =>
      cases h
      exact .inl ⟨⟨op, rfl⟩, Nat.zero_le 1, rfl⟩
    | [_], h =>
      cases h
      exact .inl ⟨⟨op, rfl⟩, Nat.le_refl 1, rfl⟩
    | right :: left :: below, h =>
      rw [reduce_symbol] at h
      split at h <;> cases h
      next happly => exact .inr (.inl ⟨op, left, right, below, rfl, rfl, happly⟩)
  | none =>
    rw [takeWord_of_ofWord?_eq_none hword] at h
    split at h <;> cases h
    next hoperand => exact .inr (.inr ⟨Operator.ofWord?_eq_none_iff.1 hword, hoperand⟩)

/-! ## Rows of words -/

theorem takeWords_cons_eq_ok_iff :
    takeWords stack (w :: later) = .ok final ↔
      ∃ next, takeWord stack w = .ok next ∧ takeWords next later = .ok final := by
  rw [takeWords]
  cases takeWord stack w <;> simp

theorem takeWords_cons_eq_error_iff :
    takeWords stack (w :: later) = .error e ↔
      takeWord stack w = .error e ∨ ∃ next, takeWord stack w = .ok next ∧ takeWords next later = .error e := by
  rw [takeWords]
  cases takeWord stack w <;> simp

theorem takeWords_append (stack : List Decimal) (vs ws : List Text) :
    takeWords stack (vs ++ ws) =
      match takeWords stack vs with
      | .error e => .error e
      | .ok next => takeWords next ws := by
  induction vs generalizing stack with
  | nil => rfl
  | cons v vs ih =>
    simp only [List.cons_append, takeWords]
    cases takeWord stack v with
    | error e => rfl
    | ok next => exact ih next

/-- A row fails with the error of the first word that fails. -/
theorem takeWords_eq_error_iff :
    takeWords stack ws = .error e ↔ ∃ front w later next,
      ws = front ++ w :: later ∧ takeWords stack front = .ok next ∧ takeWord next w = .error e := by
  induction ws generalizing stack with
  | nil => simp [takeWords]
  | cons v ws ih =>
    rw [takeWords_cons_eq_error_iff]
    constructor
    · rintro (hv | ⟨next, hv, hws⟩)
      · exact ⟨[], v, ws, stack, rfl, rfl, hv⟩
      · obtain ⟨front, w, later, final, rfl, hfront, hw⟩ := ih.1 hws
        exact ⟨v :: front, w, later, final, rfl, takeWords_cons_eq_ok_iff.2 ⟨next, hv, hfront⟩, hw⟩
    · rintro ⟨front, w, later, final, hws, hfront, hw⟩
      cases front with
      | nil =>
        cases hws
        cases hfront
        exact .inl hw
      | cons u front =>
        cases hws
        obtain ⟨next, hv, hfront⟩ := takeWords_cons_eq_ok_iff.1 hfront
        exact .inr ⟨next, hv, ih.2 ⟨front, w, later, final, rfl, hfront, hw⟩⟩

/-! ## Whole texts -/

theorem finalStack_of_isBlankText {text : Text} (h : isBlankText text = true) : finalStack text = .ok [] := by
  rw [finalStack, (words_eq_nil_iff text).2 h]
  rfl

/-- A blank text is refused at once, as it would be for the empty stack that it leaves. -/
theorem evaluatePostfix_eq_finalStack (text : Text) :
    evaluatePostfix text =
      match finalStack text with
      | .error e => .error e
      | .ok [] => .error .emptyExpression
      | .ok (top :: _) => .ok top := by
  by_cases hblank : isBlankText text = true
  · have hfinal := finalStack_of_isBlankText hblank
    rw [evaluatePostfix, if_pos hblank]
    simp only [hfinal]
  · exact if_neg hblank

end Calculator
