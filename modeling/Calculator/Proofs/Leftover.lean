import Calculator.Proofs.Acceptance

/-!
# What is left below the value

The stack machine gives the value on top and says nothing of what lies below. As a rule nothing does: an
operand starts a word only at the start of the text or behind the blank of an operator that waits, so that
there is at most one operand more than operators. The exception is a literal right behind a group. It is
appended to the operator that the group has just written, and `+3` in `1 2 +3` is a number: the operator is
lost, and three values are left. Main statement: where no literal is glued to an operator, a text that has
a value leaves just this value, and where one is and the text is not malformed besides, other values are left
below it (`finalStack_of_evaluate`).
-/

namespace Calculator

open Token

/-! ## Literals behind a group -/

def Terminal.isParen : Terminal → Bool
  | leftParen | rightParen => true
  | operator _ | literal _ => false

/-- The first terminal but for parentheses is a literal. -/
def literalNext (ts : List Terminal) : Bool := (ts.dropWhile Terminal.isParen).head?.any Terminal.isLiteral

/-- The parenthesis closes that is open with `depth` others inside it, and then a literal is next. -/
def closesOnLiteral (depth : Nat) : List Terminal → Bool
  | [] => false
  | .leftParen :: ts => closesOnLiteral (depth + 1) ts
  | .rightParen :: ts => if depth = 0 then literalNext ts else closesOnLiteral (depth - 1) ts
  | _ :: ts => closesOnLiteral depth ts

/-- Somewhere a group with an operator of its own closes, and a literal is next. -/
def gluesLiteral : List Terminal → Bool
  | [] => false
  | .operator _ :: ts => closesOnLiteral 0 ts || gluesLiteral ts
  | _ :: ts => gluesLiteral ts

namespace Yard

variable {y z : Yard} {t : Terminal} {ts : List Terminal}

/-! ## How the text ends -/

/-- The text ends with a literal character. -/
def EndsLiteral (y : Yard) : Prop := ∃ c, isLiteralChar c = true ∧ y.output.getLast? = some c

/-- The text ends with an operator. -/
def EndsSymbol (y : Yard) : Prop := ∃ (init : Text) (op : Operator), y.output = init ++ [' ', op.symbol]

theorem EndsSymbol.getLast? (h : y.EndsSymbol) : ∃ op : Operator, y.output.getLast? = some op.symbol := by
  obtain ⟨init, op, hout⟩ := h
  exact ⟨op, by rw [hout]; simp⟩

theorem not_fresh_of_getLast? {c : Char} (h : y.output.getLast? = some c) (hc : c ≠ ' ') : ¬ y.Fresh := by
  rintro (hnil | hblank)
  · rw [hnil] at h
    cases h
  · rw [hblank, Option.some.injEq] at h
    exact hc h.symm

theorem EndsLiteral.not_fresh (h : y.EndsLiteral) : ¬ y.Fresh := by
  obtain ⟨c, hc, hlast⟩ := h
  refine not_fresh_of_getLast? hlast ?_
  rintro rfl
  simp [isLiteralChar_iff, isBlank_space] at hc

theorem EndsSymbol.not_fresh (h : y.EndsSymbol) : ¬ y.Fresh := by
  obtain ⟨op, hlast⟩ := h.getLast?
  exact not_fresh_of_getLast? hlast (by cases op <;> decide)

theorem EndsLiteral.not_endsSymbol (h : y.EndsLiteral) : ¬ y.EndsSymbol := by
  intro hsymbol
  obtain ⟨c, hc, hlast⟩ := h
  obtain ⟨op, hop⟩ := hsymbol.getLast?
  rw [hlast, Option.some.injEq] at hop
  rw [hop, isLiteralChar, ofChar?_symbol] at hc
  cases hc

theorem endsLiteral_write {w : Text} (hw : IsLiteral w) (y : Yard) : (y.write w).EndsLiteral := by
  have hlast := List.getLast?_eq_some_getLast hw.1
  refine ⟨w.getLast hw.1, isLiteralChar_iff.2 (hw.2 _ (List.getLast_mem hw.1)), ?_⟩
  rw [output_write, List.getLast?_append, hlast]
  rfl

/-- A group without operators of its own leaves the text as it is. -/
theorem output_leave_of_nil (h : y.level = []) (level : List Operator) (outer : List (List Operator)) :
    (y.leave level outer).output = y.output := by
  simp [leave, output, drain, h, emitAll]

/-- Any other group ends with the operator at the bottom of its level. -/
theorem endsSymbol_leave (h : y.level ≠ []) (level : List Operator) (outer : List (List Operator)) :
    (y.leave level outer).EndsSymbol := by
  obtain ⟨ops, op, hops⟩ := (List.eq_nil_or_concat y.level).resolve_left h
  have hdrain : (y.leave level outer).output = y.drain.output := rfl
  refine ⟨y.output ++ ops.flatMap fun op => [' ', op.symbol], op, ?_⟩
  rw [hdrain, output_drain, hops]
  simp

/-- What is written next starts a word, or it is appended to a literal or to an operator. -/
def Ended (y : Yard) : Prop := y.Fresh ∨ y.EndsLiteral ∨ y.EndsSymbol

theorem Moves.ended (hmove : y.Moves t z) (ht : ∀ w, t = .literal w → IsLiteral w) (h : y.Ended) : z.Ended := by
  cases hmove with
  | literal w => exact .inr (.inl (endsLiteral_write (ht w rfl) y))
  | leftParen => exact h
  | @rightParen level outer inside =>
    by_cases hlevel : y.level = []
    · rwa [Ended, Fresh, EndsLiteral, EndsSymbol, output_leave_of_nil hlevel]
    · exact .inr (.inr (endsSymbol_leave hlevel level outer))
  | @operator op free => exact .inl (fresh_place y op)

/-! ## What a literal counts -/

theorem ofWord?_eq_none_of_mem {c : Char} (hc : isLiteralChar c = true) (start rest : Text) :
    Operator.ofWord? (start ++ c :: rest) = none := by
  match start, rest with
  | [], [] => exact IsLiteral.ofWord?_eq_none ⟨by simp, by simpa using isLiteralChar_iff.1 hc⟩
  | [], _ :: _ => rfl
  | [_], _ => rfl
  | _ :: _ :: _, _ => rfl

/-- A word with a literal character in it is an operand. -/
theorem count_word {c : Char} (hc : isLiteralChar c = true) (start rest : Text) :
    operandWords [start ++ c :: rest] = 1 ∧ operatorWords [start ++ c :: rest] = 0 := by
  simp [operandWords, operatorWords, ofWord?_eq_none_of_mem hc]

/-- Behind a literal, a literal prolongs an operand. -/
theorem EndsLiteral.counts_write (h : y.EndsLiteral) {w : Text} (hw : IsLiteral w) :
    (y.write w).operands = y.operands ∧ (y.write w).operators = y.operators := by
  obtain ⟨c, hc, hlast⟩ := h
  obtain ⟨init, hinit⟩ := List.getLast?_eq_some_iff.1 hlast
  obtain ⟨before, start, hwords⟩ := words_append_isWord (isLiteralChar_iff.1 hc).1 init
  have hold : words y.output = before ++ [start ++ [c]] := by rw [hinit, hwords [] (by simp)]
  have hnew : words (y.write w).output = before ++ [start ++ c :: w] := by
    rw [output_write, hinit, List.append_assoc, List.singleton_append, hwords w hw.isWord.2]
  obtain ⟨holdOperand, holdOperator⟩ := count_word hc start []
  obtain ⟨hnewOperand, hnewOperator⟩ := count_word hc start w
  constructor
  · rw [operands, operands, hold, hnew, operandWords_append, operandWords_append, hnewOperand, holdOperand]
  · rw [operators, operators, hold, hnew, operatorWords_append, operatorWords_append, hnewOperator, holdOperator]
    rfl

/-- Behind an operator, a literal makes a signed operand of it. -/
theorem EndsSymbol.counts_write (h : y.EndsSymbol) {w : Text} (hw : IsLiteral w) :
    (y.write w).operands = y.operands + 1 ∧ (y.write w).operators + 1 = y.operators := by
  obtain ⟨init, op, hout⟩ := h
  obtain ⟨c, v, rfl⟩ := List.exists_cons_of_ne_nil hw.1
  have hc : isLiteralChar c = true := isLiteralChar_iff.2 (hw.2 c (by simp))
  have hop : isBlank op.symbol = false := by cases op <;> decide
  have hsigned : IsWord (op.symbol :: c :: v) := ⟨by simp, by simpa [hop] using hw.isWord.2⟩
  have hold : words y.output = words init ++ [[op.symbol]] := by
    rw [hout, words_append_blank isBlank_space, words_of_isWord (isWord_singleton hop)]
  have hnew : words (y.write (c :: v)).output = words init ++ [[op.symbol] ++ c :: v] := by
    rw [output_write, hout, List.append_assoc, List.cons_append, words_append_blank isBlank_space,
      List.singleton_append, words_of_isWord hsigned]
  obtain ⟨hoperand, hoperator⟩ := count_word hc [op.symbol] v
  have hwaiting : (y.write (c :: v)).waiting = y.waiting := rfl
  constructor
  · rw [operands, operands, hold, hnew, operandWords_append, operandWords_append, hoperand]
    exact congrArg (operandWords (words init) + · + 1) (operandWords_symbols [op]).symm
  · have hsymbol : operatorWords [[op.symbol]] = 1 := operatorWords_symbols [op]
    rw [operators, operators, hold, hnew, operatorWords_append, operatorWords_append, hoperator, hsymbol, hwaiting]
    omega

/-! ## What is still to come -/

/-- No literal among the terminals to come is glued to an operator, be it written or waiting or still to come
as well. -/
structure Unglued (y : Yard) (ts : List Terminal) : Prop where
  waiting : ∀ k level, (y.level :: y.outer)[k]? = some level → level ≠ [] → closesOnLiteral k ts = false
  written : y.EndsSymbol → literalNext ts = false
  later : gluesLiteral ts = false

theorem unglued_start_iff : Unglued {} ts ↔ gluesLiteral ts = false := by
  refine ⟨Unglued.later, fun h => ⟨fun k level hk hne => ?_, fun ⟨init, op, hop⟩ => ?_, h⟩⟩
  · cases k with
    | zero => cases hk; exact absurd rfl hne
    | succ k => simp at hk
  · simp [output] at hop

/-- One step: what is not glued by this terminal is not glued by a later one. -/
theorem Moves.unglued_iff (hmove : y.Moves t z) (ht : ∀ w, t = .literal w → IsLiteral w) :
    Unglued y (t :: ts) ↔ (t.isLiteral = true → ¬ y.EndsSymbol) ∧ Unglued z ts := by
  cases hmove with
  | literal w =>
    have hz := (endsLiteral_write (ht w rfl) y).not_endsSymbol
    constructor
    · exact fun h => ⟨fun _ hend => (nomatch h.written hend), h.waiting, fun hend => absurd hend hz, h.later⟩
    · exact fun ⟨hy, h⟩ => ⟨h.waiting, fun hend => absurd hend (hy rfl), h.later⟩
  | leftParen =>
    constructor
    · refine fun h => ⟨nofun, fun k level hk hne => ?_, h.written, h.later⟩
      cases k with
      | zero => cases hk; exact absurd rfl hne
      | succ k => exact h.waiting k level hk hne
    · exact fun ⟨_, h⟩ => ⟨fun k level hk hne => h.waiting (k + 1) level hk hne, h.written, h.later⟩
  | @rightParen level outer inside =>
    have hlevels (k : Nat) : (y.level :: y.outer)[k + 1]? = (level :: outer)[k]? := by rw [inside]; rfl
    by_cases hlevel : y.level = []
    · have hends : (y.leave level outer).EndsSymbol ↔ y.EndsSymbol := by
        rw [EndsSymbol, output_leave_of_nil hlevel]
        rfl
      constructor
      · refine fun h => ⟨nofun, fun k l hk hne => ?_, fun hend => h.written (hends.1 hend), h.later⟩
        exact h.waiting (k + 1) l ((hlevels k).trans hk) hne
      · refine fun ⟨_, h⟩ => ⟨fun k l hk hne => ?_, fun hend => h.written (hends.2 hend), h.later⟩
        cases k with
        | zero => cases hk; exact absurd hlevel hne
        | succ k => exact h.waiting k l ((hlevels k).symm.trans hk) hne
    · constructor
      · refine fun h => ⟨nofun, fun k l hk hne => ?_, fun _ => h.waiting 0 y.level rfl hlevel, h.later⟩
        exact h.waiting (k + 1) l ((hlevels k).trans hk) hne
      · rintro ⟨-, h⟩
        have hnext := h.written (endsSymbol_leave hlevel level outer)
        refine ⟨fun k l hk hne => ?_, fun _ => hnext, h.later⟩
        cases k with
        | zero => exact hnext
        | succ k => exact h.waiting k l ((hlevels k).symm.trans hk) hne
  | @operator op free =>
    have hz : ¬ (y.place op).EndsSymbol := fun hend => hend.not_fresh (fresh_place y op)
    constructor
    · intro h
      have hlater := h.later
      simp only [gluesLiteral, Bool.or_eq_false_iff] at hlater
      refine ⟨nofun, fun k level hk hne => ?_, fun hend => absurd hend hz, hlater.2⟩
      cases k with
      | zero => exact hlater.1
      | succ k => exact h.waiting (k + 1) level hk hne
    · rintro ⟨-, h⟩
      have hnew : closesOnLiteral 0 ts = false := h.waiting 0 _ rfl (List.cons_ne_nil op _)
      refine ⟨fun k level hk hne => ?_, fun _ => rfl, by simp [gluesLiteral, hnew, h.later]⟩
      cases k with
      | zero => exact hnew
      | succ k => exact h.waiting (k + 1) level hk hne

/-! ## One operand more than operators -/

/-- With the operands that are `missing` there would be at most one operand more than operators, and none more where
the next operand starts a word. -/
structure Lacks (missing : Nat) (y : Yard) : Prop where
  fresh : y.Fresh → y.operands + missing ≤ y.operators
  le : y.operands + missing ≤ y.operators + 1

theorem lacks_start : Lacks 0 {} := ⟨fun _ => Nat.le_refl 0, by decide⟩

/-- One step: a literal that is not glued to an operator adds an operand where one is due. -/
theorem Lacks.moves {missing : Nat} (h : Lacks missing y) (hend : y.Ended) (hmove : y.Moves t z)
    (ht : ∀ w, t = .literal w → IsLiteral w) (hfree : t.isLiteral = true → ¬ y.EndsSymbol) : Lacks missing z := by
  have hle := h.le
  cases hmove with
  | literal w =>
    have hz := (endsLiteral_write (ht w rfl) y).not_fresh
    refine ⟨fun hf => absurd hf hz, ?_⟩
    rcases hend with hf | hlit | hsym
    · obtain ⟨hoperands, hoperators⟩ := counts_write hf (ht w rfl)
      have hfresh := h.fresh hf
      omega
    · obtain ⟨hoperands, hoperators⟩ := hlit.counts_write (ht w rfl)
      omega
    · exact absurd hsym (hfree rfl)
  | leftParen =>
    obtain ⟨hoperands, hoperators⟩ := y.counts_enter
    refine ⟨fun hf => ?_, by omega⟩
    have hfresh := h.fresh hf
    omega
  | @rightParen level outer inside =>
    obtain ⟨hoperands, hoperators⟩ := counts_leave inside
    refine ⟨fun hf => ?_, by omega⟩
    by_cases hlevel : y.level = []
    · rw [Fresh, output_leave_of_nil hlevel] at hf
      have hfresh := h.fresh hf
      omega
    · exact absurd hf (endsSymbol_leave hlevel level outer).not_fresh
  | @operator op free =>
    obtain ⟨hoperands, hoperators⟩ := y.counts_place op
    exact ⟨fun _ => by omega, by omega⟩

/-- A run: what is missing stays missing, and what is not glued by these terminals is not glued by later ones. -/
theorem Lacks.read {missing : Nat} {later : List Terminal} (h : Lacks missing y) (hend : y.Ended)
    (hg : Unglued y (ts ++ later)) (hts : ∀ w, .literal w ∈ ts → IsLiteral w) (hread : y.read ts = .ok z) :
    Lacks missing z ∧ z.Ended ∧ Unglued z later := by
  induction ts generalizing y with
  | nil =>
    cases hread
    exact ⟨h, hend, hg⟩
  | cons t ts ih =>
    obtain ⟨x, hmove, hx⟩ := read_cons_eq_ok hread
    have ht : ∀ w, t = .literal w → IsLiteral w := fun w hw => hts w (by simp [hw])
    obtain ⟨hfree, hg⟩ := (hmove.unglued_iff ht).1 hg
    exact ih (h.moves hend hmove ht hfree) (hmove.ended ht hend) hg (fun w hw => hts w (by simp [hw])) hx

/-! ## Two more for each literal that is glued -/

/-- Without the operands that are `spare` there is still one operand more than operators, or none more where the
next operand starts a word. -/
structure Supplied (spare : Nat) (y : Yard) : Prop where
  le : y.operators + spare ≤ y.operands
  lt : ¬ y.Fresh → y.operators + spare < y.operands

theorem supplied_start : Supplied 0 {} := ⟨by decide, fun h => absurd (.inl rfl) h⟩

/-- One step: where no operand is missing, only a literal that is glued changes what is spare. -/
theorem Supplied.moves {spare : Nat} (h : Supplied spare y) (hend : y.Ended) (hmove : y.Moves t z)
    (ht : ∀ w, t = .literal w → IsLiteral w) (hfull : t.startsOperand = false → ¬ y.Fresh) :
    ∃ n, Supplied (spare + n) z ∧ (¬ (t.isLiteral = true → ¬ y.EndsSymbol) → 2 ≤ n) := by
  cases hmove with
  | literal w =>
    rcases hend with hf | hlit | hsym
    · obtain ⟨hoperands, hoperators⟩ := counts_write hf (ht w rfl)
      have hle := h.le
      refine ⟨0, ⟨by omega, fun _ => by omega⟩, fun hglue => absurd (fun _ hsym => ?_) hglue⟩
      exact hsym.not_fresh hf
    · obtain ⟨hoperands, hoperators⟩ := hlit.counts_write (ht w rfl)
      have hlt := h.lt hlit.not_fresh
      exact ⟨0, ⟨by omega, fun _ => by omega⟩, fun hglue => absurd (fun _ => hlit.not_endsSymbol) hglue⟩
    · obtain ⟨hoperands, hoperators⟩ := hsym.counts_write (ht w rfl)
      have hlt := h.lt hsym.not_fresh
      exact ⟨2, ⟨by omega, fun _ => by omega⟩, fun _ => Nat.le_refl 2⟩
  | leftParen =>
    obtain ⟨hoperands, hoperators⟩ := y.counts_enter
    have hle := h.le
    refine ⟨0, ⟨by omega, fun hf => ?_⟩, fun hglue => absurd nofun hglue⟩
    have hlt := h.lt hf
    omega
  | rightParen inside =>
    obtain ⟨hoperands, hoperators⟩ := counts_leave inside
    have hlt := h.lt (hfull rfl)
    exact ⟨0, ⟨by omega, fun _ => by omega⟩, fun hglue => absurd nofun hglue⟩
  | @operator op free =>
    obtain ⟨hoperands, hoperators⟩ := y.counts_place op
    have hlt := h.lt (hfull rfl)
    exact ⟨0, ⟨by omega, fun hf => absurd (fresh_place y op) hf⟩, fun hglue => absurd nofun hglue⟩

theorem Moves.not_fresh (hmove : y.Moves t z) (ht : ∀ w, t = .literal w → IsLiteral w)
    (hfull : t.startsOperand = false → ¬ y.Fresh) (hend : t.endsOperand = true) : ¬ z.Fresh := by
  cases hmove with
  | literal w => exact (endsLiteral_write (ht w rfl) y).not_fresh
  | leftParen => cases hend
  | @rightParen level outer inside =>
    by_cases hlevel : y.level = []
    · rw [Fresh, output_leave_of_nil hlevel]
      exact hfull rfl
    · exact (endsSymbol_leave hlevel level outer).not_fresh
  | operator free => cases hend

/-- A run where no operand is missing; `after` says whether one has ended right in front. -/
theorem Supplied.read {spare : Nat} {after : Bool} (h : Supplied spare y) (hend : y.Ended)
    (hafter : after = true → ¬ y.Fresh) (hhead : after = false → ∀ t ∈ ts.head?, t.startsOperand = true)
    (hnext : ∀ a b, [a, b] <:+: ts → a.endsOperand = false → b.startsOperand = true)
    (hts : ∀ w, .literal w ∈ ts → IsLiteral w) (hread : y.read ts = .ok z) :
    ∃ n, Supplied (spare + n) z ∧ (¬ Unglued y ts → 2 ≤ n) := by
  induction ts generalizing y spare after with
  | nil =>
    have hnone : Unglued y [] := ⟨fun _ _ _ _ => rfl, fun _ => rfl, rfl⟩
    cases hread
    exact ⟨0, h, fun hg => absurd hnone hg⟩
  | cons t ts ih =>
    obtain ⟨x, hmove, hx⟩ := read_cons_eq_ok hread
    have ht : ∀ w, t = .literal w → IsLiteral w := fun w hw => hts w (by simp [hw])
    have hfull : t.startsOperand = false → ¬ y.Fresh := by
      intro hs
      cases after with
      | true => exact hafter rfl
      | false => exact absurd (hhead rfl t rfl) (by simp [hs])
    have hhead' : t.endsOperand = false → ∀ u ∈ ts.head?, u.startsOperand = true := by
      intro he u hu
      obtain ⟨later, rfl⟩ := List.head?_eq_some_iff.1 hu
      exact hnext t u ⟨[], later, rfl⟩ he
    have hnext' : ∀ a b, [a, b] <:+: ts → a.endsOperand = false → b.startsOperand = true := fun a b hab =>
      hnext a b (hab.trans (List.infix_cons (List.infix_refl ts)))
    obtain ⟨m, hm, hglue⟩ := h.moves hend hmove ht hfull
    obtain ⟨n, hn, hlater⟩ := ih hm (hmove.ended ht hend) (hmove.not_fresh ht hfull) hhead' hnext'
      (fun w hw => hts w (by simp [hw])) hx
    rw [Nat.add_assoc] at hn
    refine ⟨m + n, hn, fun hg => ?_⟩
    rw [hmove.unglued_iff ht, Classical.not_and_iff_not_or_not] at hg
    rcases hg with hg | hg
    · have htwo := hglue hg
      omega
    · have htwo := hlater hg
      omega

end Yard

/-! ## Conversions -/

section Conversion

variable {source text : Text}

/-- A conversion that glues no literal to an operator writes at most one operand more than operators. -/
theorem operandWords_le_of_toPostfix (h : toPostfix source = .ok text)
    (hg : gluesLiteral (terminals source) = false) :
    operandWords (words text) ≤ operatorWords (words text) + 1 := by
  obtain ⟨z, hz, hfinish⟩ := exists_read_of_toPostfix h
  obtain ⟨-, hoperands, hoperators⟩ := Yard.finish_counts hfinish
  have hunglued : Yard.Unglued {} (terminals source ++ []) := by rwa [List.append_nil, Yard.unglued_start_iff]
  obtain ⟨hlacks, -⟩ := Yard.lacks_start.read (.inl (.inl rfl)) hunglued (isLiteral_of_mem_terminals source) hz
  rw [hoperands, hoperators]
  exact hlacks.le

/-- A conversion that glues a literal to an operator, and misses no operand, writes at least two operands more than
operators. -/
theorem le_operandWords_of_toPostfix (h : toPostfix source = .ok text) (hm : ¬ Malformed (terminals source))
    (hg : gluesLiteral (terminals source) = true) :
    operatorWords (words text) + 2 ≤ operandWords (words text) := by
  obtain ⟨z, hz, hfinish⟩ := exists_read_of_toPostfix h
  obtain ⟨-, hoperands, hoperators⟩ := Yard.finish_counts hfinish
  obtain ⟨hhead, hnext⟩ := startsOperand_of_not_malformed hm
  have hafter : false = true → ¬ ({} : Yard).Fresh := nofun
  obtain ⟨n, hsupplied, htwo⟩ := Yard.supplied_start.read (.inl (.inl rfl)) hafter (fun _ => hhead) hnext
    (isLiteral_of_mem_terminals source) hz
  have hle := hsupplied.le
  have hn : 2 ≤ n := htwo (by simp [Yard.unglued_start_iff, hg])
  rw [hoperands, hoperators]
  omega

end Conversion

/-- A text that has a value, and glues no literal to an operator, leaves its value on the stack and nothing
below; one that does so leaves other values below it, unless it is malformed besides. -/
theorem finalStack_of_evaluate {source : Text} {v : Decimal} (h : evaluate source = .ok v) :
    ∃ text below, toPostfix source = .ok text ∧ finalStack text = .ok (v :: below) ∧
      (gluesLiteral (terminals source) = false → below = []) ∧
      (gluesLiteral (terminals source) = true → ¬ Malformed (terminals source) → below ≠ []) := by
  obtain ⟨text, htext, hv⟩ := exists_toPostfix_of_evaluate h
  obtain ⟨below, hfinal, hlength⟩ := exists_finalStack hv
  refine ⟨text, below, htext, hfinal, fun hg => ?_, fun hg hm => ?_⟩
  · have hle := operandWords_le_of_toPostfix htext hg
    exact List.length_eq_zero_iff.1 (by omega)
  · have hle := le_operandWords_of_toPostfix htext hm hg
    exact List.ne_nil_of_length_pos (by omega)

/-- In `(1)2+(3)` literals merge behind a group without operators, and a group follows on an operator. -/
theorem finalStack_of_evaluate_merged :
    ∃ text, toPostfix ['(', '1', ')', '2', '+', '(', '3', ')'] = .ok text ∧
      ∃ v : Decimal, v.mantissa = 15 ∧ finalStack text = .ok [v] := by
  have hv : evaluate ['(', '1', ')', '2', '+', '(', '3', ')'] = .ok ⟨false, 15, 0, by decide, by decide⟩ := rfl
  obtain ⟨text, below, htext, hfinal, hnone, -⟩ := finalStack_of_evaluate hv
  rw [hnone (by decide)] at hfinal
  exact ⟨text, htext, _, rfl, hfinal⟩

/-- `(1+2)3` has the value 3, and below it the operands 1 and 2 are left. -/
theorem leftover_behind_group :
    ¬ ∀ source v, evaluate source = .ok v → ∃ text, toPostfix source = .ok text ∧ finalStack text = .ok [v] := by
  intro h
  have hv : evaluate ['(', '1', '+', '2', ')', '3'] = .ok ⟨false, 3, 0, by decide, by decide⟩ := rfl
  obtain ⟨text, htext, hfinal⟩ := h _ _ hv
  have hpostfix : toPostfix ['(', '1', '+', '2', ')', '3'] = .ok ['1', ' ', '2', ' ', '+', '3'] := rfl
  cases htext.symm.trans hpostfix
  have hthree : finalStack ['1', ' ', '2', ' ', '+', '3'] =
      .ok [⟨false, 3, 0, by decide, by decide⟩, ⟨false, 2, 0, by decide, by decide⟩,
        ⟨false, 1, 0, by decide, by decide⟩] := rfl
  cases hfinal.symm.trans hthree

end Calculator
