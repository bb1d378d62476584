import Calculator.Proofs.Conversion

/-!
# What is accepted

Neither stage knows the grammar; the second one only runs out of values. But each literal becomes a word of
its own where no two operands are juxtaposed, and each operator becomes one, so that both stages together
count literals against operators (`Yard.read_counts`, `length_of_takeWords`). Main statement: only a
sentence has enough literals for its operators (`sentence_of_evaluate`).
-/

namespace Calculator

/-! ## What words do to the stack -/

/-- The words that put a value on the stack. -/
def operandWords (ws : List Text) : Nat := ws.countP fun w => (Operator.ofWord? w).isNone

/-- The words that take two values from the stack and put one on it. -/
def operatorWords (ws : List Text) : Nat := ws.countP fun w => (Operator.ofWord? w).isSome

theorem operandWords_append (vs ws : List Text) :
    operandWords (vs ++ ws) = operandWords vs + operandWords ws := List.countP_append

theorem operatorWords_append (vs ws : List Text) :
    operatorWords (vs ++ ws) = operatorWords vs + operatorWords ws := List.countP_append

theorem operandWords_symbols (ops : List Operator) : operandWords (ops.map fun op => [op.symbol]) = 0 := by
  simp [operandWords, Operator.ofWord?]

theorem operatorWords_symbols (ops : List Operator) :
    operatorWords (ops.map fun op => [op.symbol]) = ops.length := by
  induction ops with
  | nil => rfl
  | cons op ops ih =>
    rw [operatorWords] at ih ⊢
    rw [List.map_cons, List.countP_cons, ih]
    simp [Operator.ofWord?]

/-- A word makes the stack one value longer or one value shorter. -/
theorem length_of_takeWord {stack next : List Decimal} {w : Text} (h : takeWord stack w = .ok next) :
    next.length + operatorWords [w] = stack.length + operandWords [w] := by
  rcases takeWord_ok_cases h with ⟨op, left, right, value, below, rfl, rfl, -, rfl⟩ | ⟨hno, value, -, rfl⟩
  · simp [operatorWords, operandWords, Operator.ofWord?]
  · simp [operatorWords, operandWords, Operator.ofWord?_eq_none_iff.2 hno]

theorem length_of_takeWords {stack final : List Decimal} {ws : List Text} (h : takeWords stack ws = .ok final) :
    final.length + operatorWords ws = stack.length + operandWords ws := by
  induction ws generalizing stack with
  | nil =>
    cases h
    rfl
  | cons w ws ih =>
    obtain ⟨next, hw, hws⟩ := takeWords_cons_eq_ok_iff.1 h
    have hfirst := length_of_takeWord hw
    have hrest := ih hws
    rw [← List.singleton_append, operatorWords_append, operandWords_append]
    omega

/-- The value of a postfix text is on top of what it leaves: as many values as there are more operands than
operators. -/
theorem exists_finalStack {text : Text} {v : Decimal} (h : evaluatePostfix text = .ok v) :
    ∃ below, finalStack text = .ok (v :: below) ∧
      below.length + 1 + operatorWords (words text) = operandWords (words text) := by
  rw [evaluatePostfix_eq_finalStack] at h
  split at h
  · cases h
  · cases h
  next top below hfinal =>
    cases h
    have hlen := length_of_takeWords hfinal
    rw [List.length_nil, Nat.zero_add] at hlen
    exact ⟨below, hfinal, hlen⟩

/-! ## What a run writes -/

namespace Yard

/-- The operators that wait, in all levels. -/
def waiting (y : Yard) : Nat := y.level.length + y.outer.flatten.length

def operands (y : Yard) : Nat := operandWords (words y.output)

/-- The operators that are written or wait. -/
def operators (y : Yard) : Nat := operatorWords (words y.output) + y.waiting

/-- What is written next starts a word. -/
def Fresh (y : Yard) : Prop := y.output = [] ∨ y.output.getLast? = some ' '

theorem words_output_emitAll (y : Yard) (ops : List Operator) :
    words (y.emitAll ops).output = words y.output ++ ops.map fun op => [op.symbol] := by
  induction ops generalizing y with
  | nil => simp [emitAll]
  | cons op ops ih =>
    have hop : IsWord [op.symbol] := isWord_singleton (by cases op <;> decide)
    have hemit : words (y.emit op).output = words y.output ++ [[op.symbol]] := by
      rw [output_emit, words_append_blank isBlank_space, words_of_isWord hop]
    have hall : words ((y.emit op).emitAll ops).output = _ := ih (y.emit op)
    rw [hemit, List.append_assoc] at hall
    exact hall

theorem words_output_drain (y : Yard) :
    words y.drain.output = words y.output ++ y.level.map fun op => [op.symbol] :=
  words_output_emitAll y y.level

theorem words_output_place (y : Yard) (op : Operator) :
    words (y.place op).output = words y.output ++ (y.due op).map fun op => [op.symbol] := by
  have hplace : (y.place op).output = (y.emitAll (y.due op)).output ++ [' '] := by simp [output, place]
  rw [hplace, words_append_blank isBlank_space, words_output_emitAll]
  simp

theorem words_output_write {y : Yard} (hy : y.Fresh) {w : Text} (hw : IsLiteral w) :
    words (y.write w).output = words y.output ++ [w] := by
  rw [output_write, words_append hy, words_of_isWord hw.isWord]

theorem counts_drain (y : Yard) : y.drain.operands = y.operands ∧ y.drain.operators = y.operators := by
  constructor
  · rw [operands, words_output_drain, operandWords_append, operandWords_symbols]
    rfl
  · rw [operators, words_output_drain, operatorWords_append, operatorWords_symbols]
    simp only [operators, waiting, drain, outer_emitAll, List.length_nil]
    omega

theorem counts_leave {y : Yard} {level : List Operator} {outer : List (List Operator)}
    (h : y.outer = level :: outer) :
    (y.leave level outer).operands = y.operands ∧ (y.leave level outer).operators = y.operators := by
  obtain ⟨hoperands, hoperators⟩ := y.counts_drain
  refine ⟨hoperands, ?_⟩
  rw [← hoperators]
  simp [operators, waiting, leave, drain, output, h]

theorem counts_enter (y : Yard) : y.enter.operands = y.operands ∧ y.enter.operators = y.operators :=
  ⟨rfl, by simp [operators, waiting, enter, output]⟩

theorem counts_place (y : Yard) (op : Operator) :
    (y.place op).operands = y.operands ∧ (y.place op).operators = y.operators + 1 := by
  constructor
  · rw [operands, words_output_place, operandWords_append, operandWords_symbols]
    rfl
  · rw [operators, words_output_place, operatorWords_append, operatorWords_symbols]
    have hlevel : (y.due op).length + (y.level.dropWhile (op.precedence ≤ ·.precedence)).length =
        y.level.length := by
      rw [due, ← List.length_append, List.takeWhile_append_dropWhile]
    simp only [operators, waiting, place, List.length_cons]
    omega

theorem counts_write {y : Yard} (hy : y.Fresh) {w : Text} (hw : IsLiteral w) :
    (y.write w).operands = y.operands + 1 ∧ (y.write w).operators = y.operators := by
  have hoperand : operandWords [w] = 1 := by simp [operandWords, hw.ofWord?_eq_none]
  have hoperator : operatorWords [w] = 0 := by simp [operatorWords, hw.ofWord?_eq_none]
  constructor
  · rw [operands, words_output_write hy hw, operandWords_append, hoperand]
    rfl
  · rw [operators, words_output_write hy hw, operatorWords_append, hoperator]
    rfl

theorem fresh_place (y : Yard) (op : Operator) : (y.place op).Fresh := .inr (by simp [output_place])

/-- One step: a literal is one operand more and an operator one more, if no literal is appended to a word;
and where no operand ends, what is written next starts a word. -/
theorem Moves.counts {y z : Yard} {t : Terminal} (h : y.Moves t z) (ht : ∀ w, t = .literal w → IsLiteral w)
    (hfresh : t.startsOperand = true → y.Fresh) :
    z.operands = y.operands + t.isLiteral.toNat ∧ z.operators = y.operators + t.isOperator.toNat ∧
      (t.endsOperand = false → z.Fresh) := by
  cases h with
  | literal w =>
    obtain ⟨hoperands, hoperators⟩ := counts_write (hfresh rfl) (ht w rfl)
    exact ⟨hoperands, hoperators, by simp [Terminal.endsOperand]⟩
  | leftParen =>
    obtain ⟨hoperands, hoperators⟩ := y.counts_enter
    exact ⟨hoperands, hoperators, fun _ => hfresh rfl⟩
  | rightParen inside =>
    obtain ⟨hoperands, hoperators⟩ := counts_leave inside
    exact ⟨hoperands, hoperators, by simp [Terminal.endsOperand]⟩
  | @operator op free =>
    obtain ⟨hoperands, hoperators⟩ := y.counts_place op
    exact ⟨hoperands, hoperators, fun _ => fresh_place y op⟩

/-- A run without juxtaposition counts the literals and the operators that it reads; `after` says whether
an operand has ended right in front. -/
theorem read_counts {y z : Yard} {ts : List Terminal} {after : Bool} (h : y.read ts = .ok z)
    (hts : ∀ w, .literal w ∈ ts → IsLiteral w) (hjux : ¬ Juxtaposed ts)
    (hhead : after = true → ∀ t ∈ ts.head?, t.startsOperand = false) (hfresh : after = false → y.Fresh) :
    z.operands = y.operands + literalCount ts ∧ z.operators = y.operators + operatorCount ts := by
  induction ts generalizing y after with
  | nil =>
    cases h
    exact ⟨rfl, rfl⟩
  | cons t ts ih =>
    obtain ⟨x, hmove, hx⟩ := read_cons_eq_ok h
    have hstart : t.startsOperand = true → y.Fresh := by
      intro hs
      cases after with
      | false => exact hfresh rfl
      | true => exact absurd (hhead rfl t rfl) (by simp [hs])
    obtain ⟨h1, h2, hend⟩ := hmove.counts (fun w hw => hts w (by simp [hw])) hstart
    obtain ⟨h3, h4⟩ := ih hx (fun w hw => hts w (by simp [hw])) (fun h => hjux (juxtaposed_cons_iff.2 (.inr h)))
      (startsOperand_of_not_juxtaposed hjux) hend
    rw [literalCount_cons, operatorCount_cons]
    omega

/-- A run without an error opens and closes the parentheses that it reads. -/
theorem read_nesting {y z : Yard} {ts : List Terminal} (h : y.read ts = .ok z) :
    nesting? y.outer.length ts = some z.outer.length := by
  induction ts generalizing y with
  | nil =>
    cases h
    rfl
  | cons t ts ih =>
    obtain ⟨x, hmove, hx⟩ := read_cons_eq_ok h
    have hrest := ih hx
    cases hmove with
    | literal w => exact hrest
    | leftParen => exact hrest
    | rightParen inside => simpa [nesting?, leave, inside] using hrest
    | operator free => exact hrest

theorem finish_counts {y : Yard} {text : Text} (h : y.finish = .ok text) :
    y.outer = [] ∧ operandWords (words text) = y.operands ∧ operatorWords (words text) = y.operators := by
  obtain ⟨houter, rfl⟩ := finish_eq_ok h
  obtain ⟨hoperands, hoperators⟩ := y.counts_drain
  refine ⟨houter, hoperands, ?_⟩
  rw [← hoperators]
  simp [operators, waiting, drain, houter]

end Yard

/-- A conversion that succeeds reads nested parentheses and, without juxtaposition, writes a word for each
literal and for each operator. -/
theorem counts_of_toPostfix {source text : Text} (h : toPostfix source = .ok text)
    (hjux : ¬ Juxtaposed (terminals source)) :
    nesting? 0 (terminals source) = some 0 ∧ operandWords (words text) = literalCount (terminals source) ∧
      operatorWords (words text) = operatorCount (terminals source) := by
  obtain ⟨z, hz, hfinish⟩ := exists_read_of_toPostfix h
  have hlits := isLiteral_of_mem_terminals source
  have hhead : false = true → ∀ t ∈ (terminals source).head?, t.startsOperand = false := by simp
  have hnest := Yard.read_nesting hz
  obtain ⟨hoperands, hoperators⟩ := Yard.read_counts hz hlits hjux hhead fun _ => .inl rfl
  obtain ⟨ho, hfin, hfin'⟩ := Yard.finish_counts hfinish
  rw [ho] at hnest
  refine ⟨hnest, ?_, ?_⟩
  · rw [hfin, hoperands]
    exact Nat.zero_add _
  · rw [hfin', hoperators]
    exact Nat.zero_add _

theorem exists_toPostfix_of_evaluate {source : Text} {v : Decimal} (h : evaluate source = .ok v) :
    ∃ text, toPostfix source = .ok text ∧ evaluatePostfix text = .ok v := by
  unfold evaluate at h
  split at h
  · cases h
  next text htext => exact ⟨text, htext, h⟩

/-- A text that has a value and no juxtaposition is a sentence. -/
theorem sentence_of_evaluate {source : Text} {v : Decimal} (h : evaluate source = .ok v)
    (hjux : ¬ Juxtaposed (terminals source)) : Sentence (terminals source) := by
  obtain ⟨text, htext, hv⟩ := exists_toPostfix_of_evaluate h
  obtain ⟨hnest, hoperands, hoperators⟩ := counts_of_toPostfix htext hjux
  obtain ⟨below, -, hlength⟩ := exists_finalStack hv
  have hhead : false = true → ∀ t ∈ (terminals source).head?, t.startsOperand = false := by simp
  obtain ⟨hle, hplace⟩ := literalCount_le hjux hhead
  have hlits := isLiteral_of_mem_terminals source
  refine (sentence_iff_wellPlaced hlits).2 ⟨hplace ?_, hnest⟩
  rw [hoperands, hoperators] at hlength
  simp only [Bool.toNat_false] at hle ⊢
  omega

/-- Without juxtaposition a text that has a value is a sentence; a sentence has a value, or an error that
blames its numbers; and so every malformed text is refused. -/
theorem evaluate_accepts_sentences {source : Text} (h : ¬ Juxtaposed (terminals source)) :
    ((∃ v, evaluate source = .ok v) → Sentence (terminals source)) ∧
    (Sentence (terminals source) → ∀ e, evaluate source = .error e → e.isStructural = false) ∧
    (Malformed (terminals source) → ∃ e, evaluate source = .error e) := by
  refine ⟨fun ⟨v, hv⟩ => sentence_of_evaluate hv h, fun hs e he => ?_, fun hm => ?_⟩
  · obtain ⟨ex, hex⟩ := sentence_iff_derives.1 hs
    rw [evaluate_of_terminals hex] at he
    exact Expression.isStructural_of_value he
  · cases hv : evaluate source with
    | error e => exact ⟨e, rfl⟩
    | ok v => exact absurd hm (sentence_of_evaluate hv h).not_malformed

/-- `1+()` has no juxtaposition, and its parentheses are empty. -/
theorem evaluate_accepts_sentences_empty :
    ¬ Juxtaposed (terminals ['1', '+', '(', ')']) ∧ ∃ e, evaluate ['1', '+', '(', ')'] = .error e := by
  have hjux : ¬ Juxtaposed (terminals ['1', '+', '(', ')']) := by decide
  have hterminals :
      terminals ['1', '+', '(', ')'] = [.literal ['1'], .operator .add] ++ .leftParen :: .rightParen :: [] := rfl
  refine ⟨hjux, (evaluate_accepts_sentences hjux).2.2 ?_⟩
  rw [hterminals]
  exact .between (.inl rfl) (.inl rfl)

end Calculator
