import Calculator.Proofs.Composition
import Calculator.Proofs.Parentheses

/-!
# Failing by count

How high the stack is says nothing of the values on it: as long as no word fails, it holds as many values as there are
more operands than operators, and at least one behind the first word (`height_of_takeWords`). So an operator finds too
few values just if the words in front of it count so (`eq_tooManyOperators_iff`), and the stack is empty at
the end only if there are no words. Main statement: the failures of a postfix text by counting, and the infix texts
that are empty expressions (`evaluatePostfix_counted`).
-/

namespace Calculator

/-! ## One word -/

variable {stack next final : List Decimal} {front later ws : List Text} {w text : Text} {e : ExpressionError}

/-- A word that names an operator is its symbol, and the symbol does name it. -/
theorem ofSymbol_of_ofWord? {op : Operator} (h : Operator.ofWord? w = some op) :
    ∃ c, w = [c] ∧ Operator.ofSymbol c = .ok op :=
  ⟨op.symbol, Operator.ofWord?_eq_some_iff.1 h, op.ofSymbol_symbol⟩

/-- A word blames the form of the text only for want of values. -/
theorem takeWord_error (h : takeWord stack w = .error e) : e = .tooManyOperators ∨ e.isStructural = false := by
  rcases takeWord_error_cases h with ⟨-, -, he⟩ | ⟨op, left, right, below, -, -, happly⟩ | ⟨-, hoperand⟩
  · exact .inl he
  · exact .inr (isStructural_of_apply happly)
  · exact .inr (isStructural_of_operand hoperand)

/-- The exit for an unsupported operator is never taken: only a symbol that has been found is looked up again. -/
theorem takeWord_ne_unsupportedOperator (stack : List Decimal) (w : Text) (c : Char) :
    takeWord stack w ≠ .error (.unsupportedOperator c) := by
  intro h
  rcases takeWord_error h with he | he <;> cases he

theorem eq_tooManyOperators_iff (h : takeWord stack w = .error e) :
    e = .tooManyOperators ↔ (∃ op : Operator, w = [op.symbol]) ∧ stack.length ≤ 1 := by
  rcases takeWord_error_cases h with ⟨hop, hshort, he⟩ | ⟨op, left, right, below, -, rfl, happly⟩ | ⟨hno, hoperand⟩
  · exact iff_of_true he ⟨hop, hshort⟩
  · refine iff_of_false ?_ (by simp)
    rintro rfl
    cases isStructural_of_apply happly
  · refine iff_of_false ?_ fun ⟨⟨op, hop⟩, _⟩ => hno op hop
    rintro rfl
    cases isStructural_of_operand hoperand

/-- A word that does not fail leaves its value on top. -/
theorem ne_nil_of_takeWord (h : takeWord stack w = .ok next) : next ≠ [] := by
  rcases takeWord_ok_cases h with ⟨op, left, right, value, below, -, -, -, rfl⟩ | ⟨-, value, -, rfl⟩
  · exact List.cons_ne_nil value below
  · exact List.cons_ne_nil value stack

/-! ## Rows of words -/

theorem ne_nil_of_takeWords (h : takeWords stack ws = .ok final) (hne : stack ≠ [] ∨ ws ≠ []) : final ≠ [] := by
  induction ws generalizing stack with
  | nil =>
    cases h
    exact hne.resolve_right (· rfl)
  | cons w ws ih =>
    obtain ⟨next, hw, hws⟩ := takeWords_cons_eq_ok_iff.1 h
    exact ih hws (.inl (ne_nil_of_takeWord hw))

/-- A row that runs without error leaves as many values as there are more operands than operators, and at least one if
there are words at all. -/
theorem height_of_takeWords (h : takeWords [] ws = .ok final) :
    final.length + operatorWords ws = operandWords ws ∧ (ws ≠ [] → 1 ≤ final.length) := by
  have hlength := length_of_takeWords h
  rw [List.length_nil, Nat.zero_add] at hlength
  exact ⟨hlength, fun hne => List.length_pos_iff.2 (ne_nil_of_takeWords h (.inr hne))⟩

/-- The words `front` run without error, and the word `w` behind them is the first one that fails. -/
def FailsAt (ws front : List Text) (w : Text) (e : ExpressionError) : Prop :=
  ∃ later stack, ws = front ++ w :: later ∧ takeWords [] front = .ok stack ∧ takeWord stack w = .error e

theorem FailsAt.tooManyOperators_iff (h : FailsAt ws front w e) :
    e = .tooManyOperators ↔ (∃ op : Operator, w = [op.symbol]) ∧ operandWords front ≤ operatorWords front + 1 := by
  obtain ⟨later, stack, -, hfront, hw⟩ := h
  have hheight := (height_of_takeWords hfront).1
  have hcount : stack.length ≤ 1 ↔ operandWords front ≤ operatorWords front + 1 := by omega
  rw [eq_tooManyOperators_iff hw, hcount]

/-! ## Whole texts -/

/-- The exit for an empty stack at the end is never taken: texts that leave one are refused before. -/
theorem finalStack_ne_nil (hne : words text ≠ []) : finalStack text ≠ .ok [] :=
  fun h => ne_nil_of_takeWords h (.inr hne) rfl

/-- At the end of the words there is a value on the stack, so that only the words can have failed. -/
theorem evaluatePostfix_eq_error_iff (hne : words text ≠ []) :
    evaluatePostfix text = .error e ↔ ∃ front w, FailsAt (words text) front w e := by
  have hfails : (∃ front w, FailsAt (words text) front w e) ↔ finalStack text = .error e := by
    rw [finalStack, takeWords_eq_error_iff]
    simp only [FailsAt]
  rw [hfails, evaluatePostfix_eq_finalStack]
  cases hfinal : finalStack text with
  | error err => simp
  | ok final =>
    cases final with
    | nil => exact absurd hfinal (finalStack_ne_nil hne)
    | cons top below => simp

theorem evaluatePostfix_eq_emptyExpression_iff :
    evaluatePostfix text = .error .emptyExpression ↔ words text = [] := by
  constructor
  · intro h
    refine Classical.byContradiction fun hne => ?_
    obtain ⟨front, w, later, stack, -, -, hw⟩ := (evaluatePostfix_eq_error_iff hne).1 h
    exact absurd (takeWord_error hw) (by simp [ExpressionError.isStructural])
  · intro h
    rw [evaluatePostfix, if_pos ((words_eq_nil_iff text).1 h)]

theorem evaluatePostfix_ne_unsupportedOperator (text : Text) (c : Char) :
    evaluatePostfix text ≠ .error (.unsupportedOperator c) := by
  intro h
  by_cases hne : words text = []
  · rw [evaluatePostfix_eq_emptyExpression_iff.2 hne] at h
    cases h
  · obtain ⟨front, w, later, stack, -, -, hw⟩ := (evaluatePostfix_eq_error_iff hne).1 h
    exact takeWord_ne_unsupportedOperator stack w c hw

/-! ## Empty expressions -/

/-- What a parenthesis does not stand for leaves the nesting as it is. -/
theorem nesting?_terminals_cons {c : Char} (hopen : c ≠ '(') (hclose : c ≠ ')') (depth : Nat) (rest : Text) :
    nesting? depth (terminals (c :: rest)) = nesting? depth (terminals rest) := by
  rcases char_cases c with hblank | hchar | ⟨t, ht⟩
  · rw [terminals_blank hblank]
  · rcases terminals_cons_literal hchar rest with he | ⟨v, later, hrest, he⟩
    · rw [he]
      rfl
    · rw [he, hrest]
      rfl
  · rw [terminals_char ht]
    cases t with
    | operator op => rfl
    | leftParen => exact absurd (Option.some.inj ht).symm hopen
    | rightParen => exact absurd (Option.some.inj ht).symm hclose
    | literal v => cases ht

theorem forall_prefix_cons {p : Text → Prop} {c : Char} {rest : Text} :
    (∀ front, front <+: c :: rest → p front) ↔ p [] ∧ ∀ front, front <+: rest → p (c :: front) := by
  constructor
  · exact fun h => ⟨h [] (List.nil_prefix), fun front hfront => h _ (List.cons_prefix_cons.2 ⟨rfl, hfront⟩)⟩
  · rintro ⟨hnil, hcons⟩ front hfront
    rcases List.prefix_cons_iff.1 hfront with rfl | ⟨later, rfl, hlater⟩
    · exact hnil
    · exact hcons later hlater

/-- The parentheses of a text, `depth` of them open in front of it, nest just if so many more close than open, and at
no place in it too many. -/
theorem nesting?_terminals_iff {source : Text} {depth : Nat} :
    nesting? depth (terminals source) = some 0 ↔ source.count ')' = depth + source.count '(' ∧
      ∀ front, front <+: source → front.count ')' ≤ depth + front.count '(' := by
  induction source generalizing depth with
  | nil => simp [nesting?, eq_comm]
  | cons c rest ih =>
    rw [forall_prefix_cons]
    by_cases hopen : c = '('
    · subst hopen
      rw [terminals_char (t := .leftParen) rfl, nesting?, ih]
      simp [Nat.add_assoc, Nat.add_comm 1]
    · by_cases hclose : c = ')'
      · subst hclose
        rw [terminals_char (t := .rightParen) rfl]
        cases depth with
        | zero =>
          refine iff_of_false (by simp [nesting?]) ?_
          rintro ⟨-, -, hcons⟩
          have hone := hcons [] List.nil_prefix
          simp at hone
        | succ depth =>
          have hstep : nesting? (depth + 1) (.rightParen :: terminals rest) = nesting? depth (terminals rest) := rfl
          rw [hstep, ih]
          simp [Nat.add_right_comm depth 1]
      · rw [nesting?_terminals_cons hopen hclose, ih]
        simp [List.count_cons_of_ne hopen, List.count_cons_of_ne hclose]

/-- There is nothing but blanks and parentheses in a text just if all its terminals are parentheses. -/
theorem parens_terminals_iff {source : Text} :
    (∀ t ∈ terminals source, t = .leftParen ∨ t = .rightParen) ↔
      ∀ c ∈ source, isBlank c = true ∨ c = '(' ∨ c = ')' := by
  have hspelling : ∀ c, (∃ t ∈ terminals source, c ∈ t.spelling) ↔ c ∈ source ∧ isBlank c = false := by
    intro c
    rw [← List.mem_flatMap, flatMap_spelling_terminals]
    simp [stripBlanks]
  constructor
  · intro h c hc
    cases hblank : isBlank c with
    | true => exact .inl rfl
    | false =>
      obtain ⟨t, ht, hmem⟩ := (hspelling c).2 ⟨hc, hblank⟩
      rcases h t ht with rfl | rfl
      · exact .inr (.inl (List.mem_singleton.1 hmem))
      · exact .inr (.inr (List.mem_singleton.1 hmem))
  · intro h t ht
    have hparen : ∀ c ∈ t.spelling, c = '(' ∨ c = ')' := by
      intro c hc
      obtain ⟨hmem, hblank⟩ := (hspelling c).1 ⟨t, ht, hc⟩
      exact (h c hmem).resolve_left (by simp [hblank])
    cases t with
    | leftParen => exact .inl rfl
    | rightParen => exact .inr rfl
    | operator op =>
      have hop := hparen op.symbol (by simp [Terminal.spelling_operator])
      cases op <;> simp [Operator.symbol] at hop
    | literal w =>
      obtain ⟨hne, hw⟩ := isLiteral_of_mem_terminals source w ht
      obtain ⟨c, v, rfl⟩ := List.exists_cons_of_ne_nil hne
      have hchar := (hw c List.mem_cons_self).2
      rcases hparen c List.mem_cons_self with rfl | rfl <;> simp at hchar

theorem toPostfix_ne_emptyExpression {source : Text} (h : isBlankText source = false) :
    toPostfix source ≠ .error .emptyExpression := by
  rw [toPostfix_eq_read h]
  rcases Yard.tracks_nil.read (isLiteral_of_mem_terminals source) with ⟨z, hz, -, -⟩ | ⟨err, herr, hfault⟩
  · rw [hz]
    cases houter : z.outer <;> simp [Yard.finish, houter]
  · rw [herr]
    simpa using ((hfault err).2 rfl).ne_emptyExpression

theorem eq_space_of_accounts {ts : List Terminal} {y : Yard} (h : Yard.Accounts ts y)
    (hblank : isBlankText y.output = true) : ∀ c ∈ y.output, c = ' ' := by
  intro c hc
  have hb : isBlank c = true := List.all_eq_true.1 hblank c hc
  rcases h.chars c hc with hc | ⟨op, rfl⟩ | hchar
  · exact hc
  · cases op <;> cases hb
  · rw [(isLiteralChar_iff.1 hchar).1] at hb
    cases hb

/-- Every operator and every literal has left something else than blanks in the text. -/
theorem parens_of_accounts {ts : List Terminal} {y : Yard} (h : Yard.Accounts ts y)
    (hts : ∀ w, .literal w ∈ ts → IsLiteral w) (hblank : isBlankText y.output = true) (hnone : y.pending = []) :
    ∀ t ∈ ts, t = .leftParen ∨ t = .rightParen := by
  have hspace := eq_space_of_accounts h hblank
  intro t ht
  cases t with
  | leftParen => exact .inl rfl
  | rightParen => exact .inr rfl
  | operator op =>
    have hcount := h.operators op
    have hop : y.output.count op.symbol = 0 := List.count_eq_zero.2 fun hmem => by
      cases op <;> cases hspace _ hmem
    rw [hnone, List.count_nil, hop] at hcount
    exact absurd ht (List.count_eq_zero.1 hcount.symm)
  | literal w =>
    have hkept : y.output.filter isKept = [] := List.filter_eq_nil_iff.2 fun c hc => by
      rw [hspace c hc]
      decide
    have hnil : w = [] := List.flatMap_eq_nil_iff.1 (h.literals.symm.trans hkept) _ ht
    exact absurd hnil (hts w ht).1

/-- A blank postfix text comes of parentheses that nest, with nothing in them. -/
theorem parens_of_toPostfix {source : Text} (h : toPostfix source = .ok text) (hblank : isBlankText text = true) :
    (∀ t ∈ terminals source, t = .leftParen ∨ t = .rightParen) ∧ nesting? 0 (terminals source) = some 0 := by
  have hlits := isLiteral_of_mem_terminals source
  obtain ⟨y, hread, hfinish⟩ := exists_read_of_toPostfix h
  obtain ⟨z, hz, rfl, hnone⟩ := (Yard.accounts_start.read hlits hread).finish hfinish
  have hnest := Yard.read_nesting hread
  rw [(Yard.finish_counts hfinish).1] at hnest
  exact ⟨parens_of_accounts hz hlits hblank hnone, hnest⟩

theorem toPostfix_of_parens {source : Text} (hblank : isBlankText source = false)
    (hparens : ∀ t ∈ terminals source, t = .leftParen ∨ t = .rightParen)
    (hnest : nesting? 0 (terminals source) = some 0) : toPostfix source = .ok [] := by
  have hops : ∀ op, .operator op ∉ terminals source := fun op hop => by simpa using hparens _ hop
  have hread : ({} : Yard).read (terminals source) = .ok (({} : Yard).write (literalText (terminals source))) :=
    @Yard.read_enterTimes _ 0 hops hnest {}
  have hnone : literalText (terminals source) = [] := List.flatMap_eq_nil_iff.2 fun t ht => by
    rcases hparens t ht with rfl | rfl <;> rfl
  rw [toPostfix_eq_read hblank, hread, hnone]
  rfl

/-- An expression is empty just if there are no terminals in it but parentheses that nest. -/
theorem evaluate_eq_emptyExpression_iff {source : Text} :
    evaluate source = .error .emptyExpression ↔
      (∀ t ∈ terminals source, t = .leftParen ∨ t = .rightParen) ∧ nesting? 0 (terminals source) = some 0 := by
  cases hblank : isBlankText source with
  | true =>
    have hnone : terminals source = [] := by simpa using terminals_append_blank hblank []
    have hempty : evaluate source = .error .emptyExpression := by rw [evaluate, toPostfix, if_pos hblank]
    rw [hnone]
    exact iff_of_true hempty ⟨by simp, rfl⟩
  | false =>
    constructor
    · intro h
      cases htext : toPostfix source with
      | error err =>
        rw [evaluate, htext] at h
        cases h
        exact absurd htext (toPostfix_ne_emptyExpression hblank)
      | ok text =>
        rw [evaluate, htext] at h
        exact parens_of_toPostfix htext ((words_eq_nil_iff text).1 (evaluatePostfix_eq_emptyExpression_iff.1 h))
    · rintro ⟨hparens, hnest⟩
      rw [evaluate, toPostfix_of_parens hblank hparens hnest]
      rfl

/-- Postfix texts, sorted by what they come to. Only a text without words is an empty expression, and an operator is
always one that is known. A row that runs without error leaves as many values as there are more operands than
operators, at least one if there are words. Of any other row the first word that fails gives the error; values are
wanting just if this is an operator with at most one operand more than operators in front of it. Below a value that is
returned there are as many as the words count, less that one. An infix text is an empty expression just if it consists
of blanks and of parentheses that nest. -/
theorem evaluatePostfix_counted :
    (∀ text,
      (evaluatePostfix text = .error .emptyExpression ↔ words text = []) ∧
      (∀ c, evaluatePostfix text ≠ .error (.unsupportedOperator c)) ∧
      (∀ w ∈ words text, ∀ op, Operator.ofWord? w = some op → ∃ c, w = [c] ∧ Operator.ofSymbol c = .ok op) ∧
      (∀ front stack, front <+: words text → takeWords [] front = .ok stack →
        stack.length + operatorWords front = operandWords front ∧ (front ≠ [] → 1 ≤ stack.length)) ∧
      (words text ≠ [] → ∀ e, evaluatePostfix text = .error e ↔ ∃ front w, FailsAt (words text) front w e) ∧
      (∀ front w e, FailsAt (words text) front w e →
        (e = .tooManyOperators ↔
          (∃ op : Operator, w = [op.symbol]) ∧ operandWords front ≤ operatorWords front + 1)) ∧
      (∀ v, evaluatePostfix text = .ok v → ∃ below, finalStack text = .ok (v :: below) ∧
        below.length + 1 + operatorWords (words text) = operandWords (words text))) ∧
    ∀ source, evaluate source = .error .emptyExpression ↔
      (∀ c ∈ source, isBlank c = true ∨ c = '(' ∨ c = ')') ∧ source.count ')' = source.count '(' ∧
        ∀ front, front <+: source → front.count ')' ≤ front.count '(' := by
  refine ⟨fun text => ⟨evaluatePostfix_eq_emptyExpression_iff, evaluatePostfix_ne_unsupportedOperator text,
    fun w _ op hop => ofSymbol_of_ofWord? hop, fun front stack _ hrun => height_of_takeWords hrun,
    fun hne e => evaluatePostfix_eq_error_iff hne, fun front w e h => h.tooManyOperators_iff,
    fun v hv => exists_finalStack hv⟩, fun source => ?_⟩
  rw [evaluate_eq_emptyExpression_iff, parens_terminals_iff, nesting?_terminals_iff]
  simp only [Nat.zero_add]

/-- In `1 2 + * x` the `*` is the first word that fails, with one operand more than operators in front of it. -/
example : evaluatePostfix "1 2 + * x".toList = .error .tooManyOperators := by decide

end Calculator
