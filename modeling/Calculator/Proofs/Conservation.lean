import Calculator.Proofs.Conversion

/-!
# What a conversion keeps

An operator is written just once, whichever way it leaves the stack: written or waiting, it stays on the books
(`Accounts.emit`). So at any time the text and the stack together account for the terminals that have been read
(`Accounts.read`), and at the end the text does alone. Main statement: the postfix text holds the literals of the
infix text in their order, each operator as often as it stands there, and two blanks for each
(`toPostfix_conserves`).
-/

namespace Calculator

open Token

/-! ## Literals in a row -/

/-- What a terminal adds to the literals. -/
def Terminal.literalText : Terminal → Text
  | literal w => w
  | _ => []

/-- The literals of a row, one right behind the other. -/
def literalText (ts : List Terminal) : Text := ts.flatMap Terminal.literalText

theorem literalText_append (ts us : List Terminal) : literalText (ts ++ us) = literalText ts ++ literalText us :=
  List.flatMap_append

/-- A character of a postfix text that belongs to a literal: no blank and no operator. -/
def isKept (c : Char) : Bool := c != ' ' && (Operator.ofSymbol? c).isNone

theorem isKept_symbol (op : Operator) : isKept op.symbol = false := by cases op <;> rfl

theorem isKept_of_isLiteralChar {c : Char} (h : isLiteralChar c = true) : isKept c = true := by
  obtain ⟨hblank, hmem⟩ := isLiteralChar_iff.1 h
  simp only [List.mem_cons, List.not_mem_nil, or_false, not_or] at hmem
  have hspace : c ≠ ' ' := by
    rintro rfl
    simp [isBlank_space] at hblank
  simp [isKept, Operator.ofSymbol?, hmem, hspace]

theorem IsLiteral.filter_isKept {w : Text} (h : IsLiteral w) : w.filter isKept = w :=
  List.filter_eq_self.2 fun c hc => isKept_of_isLiteralChar (isLiteralChar_iff.2 (h.2 c hc))

/-- Neither a blank nor an operator stands in a literal. -/
theorem IsLiteral.count_eq_zero {w : Text} (h : IsLiteral w) {c : Char} (hc : isKept c = false) : w.count c = 0 :=
  List.count_eq_zero.2 fun hmem => by
    rw [isKept_of_isLiteralChar (isLiteralChar_iff.2 (h.2 c hmem))] at hc
    cases hc

/-- Operators are counted alike as tokens and as terminals. -/
theorem count_map_terminal (ts : List Token) (op : Operator) :
    (ts.map Token.terminal).count (.operator op) = (ts.map Token.kind).count (.operator op) := by
  have hone (t : Token) : (t.terminal == .operator op) = (t.kind == .operator op) := by
    obtain ⟨kind, lexeme, place⟩ := t
    rw [Bool.eq_iff_iff, beq_iff_eq, beq_iff_eq]
    cases kind <;> simp [Token.terminal]
  induction ts with
  | nil => rfl
  | cons t ts ih => rw [List.map_cons, List.count_cons, ih, hone, List.map_cons, List.count_cons]

namespace Yard

variable {front ts : List Terminal} {y z : Yard} {t : Terminal}

/-! ## Operators written and waiting -/

/-- Operators as they are written, with a blank in front of each. -/
def operatorText (ops : List Operator) : Text := ops.flatMap fun op => [' ', op.symbol]

theorem mem_operatorText {ops : List Operator} {c : Char} (h : c ∈ operatorText ops) :
    c = ' ' ∨ ∃ op : Operator, c = op.symbol := by
  simp only [operatorText, List.mem_flatMap, List.mem_cons, List.not_mem_nil, or_false] at h
  obtain ⟨op, -, hc⟩ := h
  exact hc.imp_right fun hc => ⟨op, hc⟩

theorem filter_isKept_operatorText (ops : List Operator) : (operatorText ops).filter isKept = [] := by
  refine List.filter_eq_nil_iff.2 fun c hc => ?_
  rcases mem_operatorText hc with rfl | ⟨op, rfl⟩
  · decide
  · simp [isKept_symbol]

theorem count_symbol_operatorText (ops : List Operator) (op : Operator) :
    (operatorText ops).count op.symbol = ops.count op := by
  have hinj (o : Operator) : ([' ', o.symbol] : Text).count op.symbol = if o = op then 1 else 0 := by
    cases o <;> cases op <;> rfl
  induction ops with
  | nil => rfl
  | cons o ops ih =>
    rw [operatorText, List.flatMap_cons, List.count_append, hinj, ← operatorText, ih, List.count_cons]
    simp [Nat.add_comm]

theorem count_blank_operatorText (ops : List Operator) : (operatorText ops).count ' ' = ops.length := by
  have hone (o : Operator) : ([' ', o.symbol] : Text).count ' ' = 1 := by cases o <;> rfl
  induction ops with
  | nil => rfl
  | cons o ops ih =>
    rw [operatorText, List.flatMap_cons, List.count_append, hone, ← operatorText, ih, List.length_cons, Nat.add_comm]

/-- The operators that wait, in all levels, the latest first. -/
def pending (y : Yard) : List Operator := y.level ++ y.outer.flatten

theorem count_entries (level : List Operator) (op : Operator) :
    (entries level).count (.operator op) = level.count op := by
  induction level with
  | nil => rfl
  | cons o level ih =>
    rw [entries] at ih ⊢
    rw [List.map_cons, List.count_cons, ih, List.count_cons]
    simp

theorem count_stack (y : Yard) (op : Operator) : y.stack.count (.operator op) = y.pending.count op := by
  have houter (outer : List (List Operator)) :
      (outer.flatMap fun level => .leftParen :: entries level).count (.operator op) = outer.flatten.count op := by
    induction outer with
    | nil => rfl
    | cons level outer ih =>
      rw [List.flatMap_cons, List.count_append, List.count_cons_of_ne (by simp), count_entries, ih, List.flatten_cons,
        List.count_append]
  rw [stack, pending, List.count_append, List.count_append, count_entries, houter]

/-! ## The books -/

/-- The text and the operators that wait account for the terminals that have been read. -/
structure Accounts (front : List Terminal) (y : Yard) : Prop where
  literals : y.output.filter isKept = literalText front
  operators : ∀ op : Operator, y.output.count op.symbol + y.pending.count op = front.count (.operator op)
  blanks : y.output.count ' ' + y.pending.length = 2 * operatorCount front
  chars : ∀ c ∈ y.output, c = ' ' ∨ (∃ op : Operator, c = op.symbol) ∨ isLiteralChar c = true

theorem accounts_start : Accounts [] {} := ⟨rfl, fun _ => rfl, rfl, by simp [output]⟩

/-- Operators that are written where they have waited change nothing. -/
theorem Accounts.emit (h : Accounts front y) {ops : List Operator} (hout : z.output = y.output ++ operatorText ops)
    (hpending : y.pending = ops ++ z.pending) : Accounts front z := by
  refine ⟨?_, fun op => ?_, ?_, fun c hc => ?_⟩
  · rw [hout, List.filter_append, filter_isKept_operatorText, List.append_nil, h.literals]
  · have hop := h.operators op
    rw [hpending, List.count_append] at hop
    rw [hout, List.count_append, count_symbol_operatorText]
    omega
  · have hblanks := h.blanks
    rw [hpending, List.length_append] at hblanks
    rw [hout, List.count_append, count_blank_operatorText]
    omega
  · rw [hout, List.mem_append] at hc
    rcases hc with hc | hc
    · exact h.chars c hc
    · exact (mem_operatorText hc).imp_right .inl

/-- A parenthesis adds nothing. -/
theorem Accounts.paren (h : Accounts front y) {t : Terminal} (ht : t = .leftParen ∨ t = .rightParen) :
    Accounts (front ++ [t]) y := by
  refine ⟨?_, fun op => ?_, ?_, h.chars⟩
  · rw [h.literals, literalText_append]
    rcases ht with rfl | rfl <;> exact (List.append_nil _).symm
  · rw [h.operators, List.count_append]
    rcases ht with rfl | rfl <;> rfl
  · rw [h.blanks, operatorCount, operatorCount, List.countP_append]
    rcases ht with rfl | rfl <;> rfl

theorem Accounts.write (h : Accounts front y) {w : Text} (hw : IsLiteral w) :
    Accounts (front ++ [.literal w]) (y.write w) := by
  have hpending : (y.write w).pending = y.pending := rfl
  refine ⟨?_, fun op => ?_, ?_, fun c hc => ?_⟩
  · rw [output_write, List.filter_append, hw.filter_isKept, h.literals, literalText_append]
    simp [literalText, Terminal.literalText]
  · rw [output_write, List.count_append, hw.count_eq_zero (isKept_symbol op), Nat.add_zero, hpending, h.operators]
    simp
  · rw [output_write, List.count_append, hw.count_eq_zero (by decide), Nat.add_zero, hpending, h.blanks]
    simp [operatorCount, Terminal.isOperator]
  · rw [output_write, List.mem_append] at hc
    exact hc.elim (h.chars c) fun hc => .inr (.inr (isLiteralChar_iff.2 (hw.2 c hc)))

theorem Accounts.enter (h : Accounts front y) : Accounts (front ++ [.leftParen]) y.enter := by
  have hout : y.enter.output = y.output ++ operatorText [] := (List.append_nil _).symm
  exact (h.emit hout rfl).paren (.inl rfl)

theorem Accounts.leave (h : Accounts front y) {level : List Operator} {outer : List (List Operator)}
    (inside : y.outer = level :: outer) : Accounts (front ++ [.rightParen]) (y.leave level outer) := by
  have hout : (y.leave level outer).output = y.output ++ operatorText y.level := output_drain y
  have hpending : y.pending = y.level ++ (y.leave level outer).pending := by rw [pending, inside]; rfl
  exact (h.emit hout hpending).paren (.inr rfl)

theorem Accounts.settle (h : Accounts front y) (k : Nat) : Accounts front (y.settle k) := by
  have hout : (y.settle k).output = y.output ++ operatorText (y.level.takeWhile (k ≤ ·.precedence)) :=
    output_emitAll y _
  have hpending : y.pending = y.level.takeWhile (k ≤ ·.precedence) ++ (y.settle k).pending := by
    rw [pending, pending, ← List.append_assoc]
    simp [Yard.settle]
  exact h.emit hout hpending

theorem Accounts.hold (h : Accounts front y) (op : Operator) : Accounts (front ++ [.operator op]) (y.hold op) := by
  have hout : (y.hold op).output = y.output ++ [' '] := by simp [output, Yard.hold]
  have hpending : (y.hold op).pending = op :: y.pending := rfl
  refine ⟨?_, fun o => ?_, ?_, fun c hc => ?_⟩
  · rw [hout, List.filter_append, h.literals, literalText_append]
    rfl
  · have hblank : ([' '] : Text).count o.symbol = 0 := by cases o <;> rfl
    have ho := h.operators o
    rw [hout, hpending, List.count_append, hblank, List.count_cons, List.count_append, List.count_singleton]
    simp only [beq_iff_eq, Terminal.operator.injEq]
    omega
  · have hblanks := h.blanks
    rw [hout, hpending, List.count_append, List.length_cons, operatorCount, List.countP_append, ← operatorCount]
    simp [Terminal.isOperator]
    omega
  · rw [hout, List.mem_append, List.mem_singleton] at hc
    exact hc.elim (h.chars c) .inl

theorem Accounts.place (h : Accounts front y) (op : Operator) : Accounts (front ++ [.operator op]) (y.place op) := by
  rw [place_eq]
  exact (h.settle op.precedence).hold op

theorem Accounts.moves (h : Accounts front y) (hmove : y.Moves t z) (ht : ∀ w, t = .literal w → IsLiteral w) :
    Accounts (front ++ [t]) z := by
  cases hmove with
  | literal w => exact h.write (ht w rfl)
  | leftParen => exact h.enter
  | rightParen inside => exact h.leave inside
  | @operator op free => exact h.place op

theorem Accounts.read (h : Accounts front y) (hts : ∀ w, .literal w ∈ ts → IsLiteral w) (hread : y.read ts = .ok z) :
    Accounts (front ++ ts) z := by
  induction ts generalizing front y with
  | nil =>
    cases hread
    rwa [List.append_nil]
  | cons t ts ih =>
    obtain ⟨x, hmove, hx⟩ := read_cons_eq_ok hread
    rw [List.append_cons]
    exact ih (h.moves hmove fun w hw => hts w (by simp [hw])) (fun w hw => hts w (by simp [hw])) hx

/-- At the end nothing waits, and the text accounts for all. -/
theorem Accounts.finish {text : Text} (h : Accounts front y) (hfinish : y.finish = .ok text) :
    ∃ z, Accounts front z ∧ z.output = text ∧ z.pending = [] := by
  obtain ⟨houter, rfl⟩ := finish_eq_ok hfinish
  have hnone : y.drain.pending = [] := by simp [pending, drain, houter]
  refine ⟨y.drain, h.emit (output_drain y) ?_, rfl, hnone⟩
  rw [hnone, List.append_nil, pending, houter, List.flatten_nil, List.append_nil]

/-! ## Only appending -/

theorem output_prefix_feed (y : Yard) (t : Token) : y.output <+: (y.feed t).yard.output := by
  rw [feed_eq_step]
  cases t.terminal with
  | literal w =>
    rw [step_literal, output_write]
    exact List.prefix_append _ _
  | leftParen => exact List.prefix_refl _
  | rightParen =>
    have hdrain : y.output <+: y.drain.output := by
      rw [output_drain]
      exact List.prefix_append _ _
    cases houter : y.outer with
    | nil => rwa [step_rightParen_nil houter]
    | cons level outer => rwa [step_rightParen_cons houter]
  | operator op =>
    cases hadj : y.adjacency? op with
    | some e => simp [step_operator_some hadj]
    | none =>
      rw [step_operator_none hadj, output_place, List.append_assoc]
      exact List.prefix_append _ _

end Yard

/-- A postfix text holds the literals of the infix text in their order and each operator as often as it stands there,
with two blanks for each and nothing besides. At any time before, each operator that has been read is written or
waits, and what is written stays written. -/
theorem toPostfix_conserves (source : Text) :
    (∀ text, toPostfix source = .ok text →
      text.filter (fun c => c != ' ' && (Operator.ofSymbol? c).isNone) = literalText (terminals source) ∧
      (∀ op : Operator, text.count op.symbol = source.count op.symbol) ∧
      (∀ c ∈ text, c ≠ '(' ∧ c ≠ ')' ∧ (isBlank c = true → c = ' ')) ∧
      text.count ' ' = 2 * operatorCount (terminals source)) ∧
    ∀ ts y, ts <+: tokens source → ({} : Yard).feedAll ts = .ok y →
      (∀ op : Operator, y.output.count op.symbol + y.stack.count (.operator op) =
        (ts.map Token.kind).count (.operator op)) ∧
      ∀ t, y.output <+: (y.feed t).yard.output := by
  have hlits := isLiteral_of_mem_terminals source
  refine ⟨fun text h => ?_, fun ts y hts hfeed => ⟨fun op => ?_, y.output_prefix_feed⟩⟩
  · obtain ⟨y, hread, hfinish⟩ := exists_read_of_toPostfix h
    obtain ⟨z, hz, rfl, hnone⟩ := (Yard.accounts_start.read hlits hread).finish hfinish
    refine ⟨hz.literals, fun op => ?_, fun c hc => ?_, ?_⟩
    · have hop := hz.operators op
      rw [hnone, List.count_nil, Nat.add_zero] at hop
      rw [hop, List.nil_append, count_terminals rfl]
    · rcases hz.chars c hc with rfl | ⟨op, rfl⟩ | hchar
      · decide
      · cases op <;> decide
      · obtain ⟨hblank, hmem⟩ := isLiteralChar_iff.1 hchar
        simp only [List.mem_cons, List.not_mem_nil, or_false, not_or] at hmem
        simp [hblank, hmem]
    · have hblanks := hz.blanks
      rwa [hnone, List.length_nil, Nat.add_zero] at hblanks
  · rw [Yard.feedAll_eq_read] at hfeed
    have hsub : ∀ w, .literal w ∈ ts.map Token.terminal → IsLiteral w := fun w hw =>
      hlits w ((hts.map Token.terminal).subset hw)
    have hop := (Yard.accounts_start.read hsub hfeed).operators op
    rw [Yard.count_stack, hop, List.nil_append, count_map_terminal]

/-- In ` *(1-2)3 4` an operand is missing and a literal is appended to an operator, and still nothing is lost; when
`(1-2` has been read, `-` waits. -/
theorem toPostfix_conserves_malformed :
    ∃ text, toPostfix ['*', '(', '1', '-', '2', ')', '3', ' ', '4'] = .ok text ∧
      text.filter (fun c => c != ' ' && (Operator.ofSymbol? c).isNone) = ['1', '2', '3', '4'] ∧
      text.count '*' = 1 ∧ text.count ' ' = 4 ∧
      ∃ y : Yard, ({} : Yard).feedAll ((tokens ['*', '(', '1', '-', '2', ')', '3', ' ', '4']).take 5) = .ok y ∧
        y.output.count '-' + y.stack.count (.operator .sub) = 1 := by
  have htext : toPostfix ['*', '(', '1', '-', '2', ')', '3', ' ', '4'] =
      .ok [' ', '1', ' ', '2', ' ', '-', '3', '4', ' ', '*'] := rfl
  obtain ⟨hconverted, hfed⟩ := toPostfix_conserves ['*', '(', '1', '-', '2', ')', '3', ' ', '4']
  obtain ⟨hliterals, hcount, -, hblanks⟩ := hconverted _ htext
  have hmul := hcount .mul
  refine ⟨_, htext, hliterals.trans (by decide), hmul.trans (by decide), hblanks.trans (by decide), _, rfl, ?_⟩
  exact ((hfed _ _ (List.take_prefix 5 _) rfl).1 .sub).trans (by decide)

end Calculator
