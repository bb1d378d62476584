import Calculator.Proofs.Faults

/-!
# Scanning character by character

A conversion needs no tokens: the same postfix text, and the same error, comes of a scan that takes the
characters of the text without its blanks one by one, with a single stack for operators and open parentheses.
There every other character is appended by itself, and a blank at the end of the text means that two operators
are adjacent. Main statement: the conversion by tokens is this scan (`toPostfix_eq_scan`), so that blanks
never have an influence, wherever they stand.

An error ends the scan, and what a loop over the stack has written before it fails is lost. `closeLoop` and
`finishLoop` keep it, and a yard is left just as they leave it (`closeLoop_stack`).
-/

namespace Calculator

open Token Yard

/-! ## The scan -/

/-- What the scan keeps: the stack, the topmost entry first, and the text written so far. -/
structure Scan where
  stack : List Entry := []
  output : Text := []
deriving DecidableEq, Repr

namespace Scan

/-- Pops operators that bind at `k` or tighter and writes them, a blank in front of each, up to a parenthesis or
the end of the stack. -/
def popTighter (k : Nat) : List Entry → Text → Scan
  | .operator op :: below, output =>
    if k ≤ op.precedence then popTighter k below (output ++ [' ', op.symbol]) else ⟨.operator op :: below, output⟩
  | .leftParen :: below, output => ⟨.leftParen :: below, output⟩
  | [], output => ⟨[], output⟩

/-- Pops and writes operators until the parenthesis that opens the group is found, which is dropped. -/
def close : List Entry → Text → Except ExpressionError Scan
  | .operator op :: below, output => close below (output ++ [' ', op.symbol])
  | .leftParen :: below, output => .ok ⟨below, output⟩
  | [], _ => .error .missingLeftParenthesis

/-- Pops and writes all operators at the end of the text. -/
def drain : List Entry → Text → Except ExpressionError Text
  | .operator op :: below, output => drain below (output ++ [' ', op.symbol])
  | .leftParen :: _, _ => .error .missingRightParenthesis
  | [], output => .ok output

/-- The symbol on top of the stack; the empty stack has a blank there. -/
def topSymbol : List Entry → Char
  | [] => ' '
  | top :: _ => top.symbol

/-- Takes one character. -/
def step (s : Scan) (c : Char) : Except ExpressionError Scan :=
  match Operator.ofSymbol? c with
  | some op =>
    if s.output.getLast? = some ' ' then .error (.adjacentOperators (topSymbol s.stack) c)
    else
      let popped := popTighter op.precedence s.stack s.output
      .ok ⟨.operator op :: popped.stack, popped.output ++ [' ']⟩
  | none =>
    if c = '(' then .ok ⟨.leftParen :: s.stack, s.output⟩
    else if c = ')' then close s.stack s.output
    else .ok ⟨s.stack, s.output ++ [c]⟩

/-- Takes characters one by one and drains the stack behind the last; the first error ends the scan. -/
def run (s : Scan) : Text → Except ExpressionError Text
  | [] => drain s.stack s.output
  | c :: rest =>
    match s.step c with
    | .error e => .error e
    | .ok next => next.run rest

/-- The postfix text of a text that has no blanks. -/
def toPostfix (text : Text) : Except ExpressionError Text :=
  if text = [] then .error .emptyExpression else ({} : Scan).run text

/-! ## Where the loops stop -/

/-- What a loop over the stack comes to: the error, if there is one, and the scan that it leaves. -/
structure Stop where
  error? : Option ExpressionError
  scan : Scan
deriving DecidableEq, Repr

/-- The loop of `ShuntingYard::close_paren`. At the bottom of the stack it fails with all operators written. -/
def closeLoop : List Entry → Text → Stop
  | .operator op :: below, output => closeLoop below (output ++ [' ', op.symbol])
  | .leftParen :: below, output => ⟨none, ⟨below, output⟩⟩
  | [], output => ⟨some .missingLeftParenthesis, ⟨[], output⟩⟩

/-- The loop of `ShuntingYard::finish`. At a parenthesis it fails with the operators above it written. -/
def finishLoop : List Entry → Text → Stop
  | .operator op :: below, output => finishLoop below (output ++ [' ', op.symbol])
  | .leftParen :: below, output => ⟨some .missingRightParenthesis, ⟨below, output⟩⟩
  | [], output => ⟨none, ⟨[], output⟩⟩

/-- The scan of a loop that does not fail. -/
def Stop.result (s : Stop) : Except ExpressionError Scan :=
  match s.error? with
  | some e => .error e
  | none => .ok s.scan

theorem result_closeLoop (stack : List Entry) (output : Text) : (closeLoop stack output).result = close stack output := by
  induction stack generalizing output with
  | nil => rfl
  | cons entry below ih =>
    cases entry with
    | operator op => exact ih (output ++ [' ', op.symbol])
    | leftParen => rfl

theorem result_finishLoop (stack : List Entry) (output : Text) :
    (finishLoop stack output).result.map Scan.output = drain stack output := by
  induction stack generalizing output with
  | nil => rfl
  | cons entry below ih =>
    cases entry with
    | operator op => exact ih (output ++ [' ', op.symbol])
    | leftParen => rfl

/-- The operators on top are written, whatever lies below them. -/
theorem closeLoop_entries (ops : List Operator) (below : List Entry) (output : Text) :
    closeLoop (entries ops ++ below) output = closeLoop below (output ++ ops.flatMap fun op => [' ', op.symbol]) := by
  induction ops generalizing output with
  | nil => simp [entries]
  | cons op ops ih => simpa [entries, closeLoop] using ih (output ++ [' ', op.symbol])

theorem finishLoop_entries (ops : List Operator) (below : List Entry) (output : Text) :
    finishLoop (entries ops ++ below) output = finishLoop below (output ++ ops.flatMap fun op => [' ', op.symbol]) := by
  induction ops generalizing output with
  | nil => simp [entries]
  | cons op ops ih => simpa [entries, finishLoop] using ih (output ++ [' ', op.symbol])

/-! ## Running on -/

theorem run_cons_of_ok {s next : Scan} {c : Char} (h : s.step c = .ok next) (rest : Text) :
    s.run (c :: rest) = next.run rest := by
  rw [run, h]

theorem run_cons_of_error {s : Scan} {c : Char} {e : ExpressionError} (h : s.step c = .error e) (rest : Text) :
    s.run (c :: rest) = .error e := by
  rw [run, h]

end Scan

/-! ## The yard as a scan -/

namespace Yard

/-- The yard with its levels in one stack. -/
def scan (y : Yard) : Scan := ⟨y.stack, y.output⟩

/-- The yard behind an operator on top that has been written. -/
theorem settle_mk_cons {op : Operator} {k : Nat} (hk : k ≤ op.precedence) (level : List Operator)
    (outer : List (List Operator)) (written : Text) :
    (⟨op :: level, outer, written⟩ : Yard).settle k = (⟨level, outer, op.symbol :: ' ' :: written⟩ : Yard).settle k :=
  settle_cons rfl hk

theorem scan_popTighter (y : Yard) (k : Nat) : Scan.popTighter k y.stack y.output = (y.settle k).scan := by
  obtain ⟨level, outer, written⟩ := y
  induction level generalizing written with
  | nil => cases outer <;> rfl
  | cons op level ih =>
    by_cases hk : k ≤ op.precedence
    · rw [settle_mk_cons hk, ← ih]
      simp [stack, entries, Scan.popTighter, hk, output]
    · rw [settle_of_lt (by simpa using hk)]
      simp [stack, entries, Scan.popTighter, hk, scan]

/-- A parenthesis that closes leaves what its loop over the flat stack leaves, whether it fails or not. -/
theorem closeLoop_stack (y : Yard) :
    Scan.closeLoop y.stack y.output = ⟨(y.step .rightParen).error?, (y.step .rightParen).yard.scan⟩ := by
  rw [stack, Scan.closeLoop_entries, ← output_drain]
  cases houter : y.outer with
  | nil =>
    rw [step_rightParen_nil houter, scan, stack_drain_of_outer_nil houter]
    rfl
  | cons level outer =>
    rw [step_rightParen_cons houter]
    rfl

/-- Where no parenthesis is open, the end of the tokens leaves a drained yard. -/
theorem finishLoop_stack_nil {y : Yard} (h : y.outer = []) :
    Scan.finishLoop y.stack y.output = ⟨none, y.drain.scan⟩ := by
  rw [stack, Scan.finishLoop_entries, ← output_drain, h, scan, stack_drain_of_outer_nil h]
  rfl

theorem finishLoop_stack_cons {y : Yard} {level : List Operator} {outer : List (List Operator)}
    (h : y.outer = level :: outer) :
    Scan.finishLoop y.stack y.output = ⟨some .missingRightParenthesis, (y.leave level outer).scan⟩ := by
  rw [stack, Scan.finishLoop_entries, ← output_drain, h]
  rfl

theorem scan_drain (y : Yard) : Scan.drain y.stack y.output = y.finish := by
  rw [← Scan.result_finishLoop]
  cases houter : y.outer with
  | nil =>
    rw [finishLoop_stack_nil houter, finish, houter]
    rfl
  | cons level outer =>
    rw [finishLoop_stack_cons houter, finish, houter]
    rfl

/-! ## One terminal, character by character -/

variable {front : List Terminal} {y : Yard}

theorem scan_step_literal {c : Char} (hc : isLiteralChar c = true) : y.scan.step c = .ok (y.write [c]).scan := by
  obtain ⟨-, hmem⟩ := isLiteralChar_iff.1 hc
  simp only [List.mem_cons, List.not_mem_nil, or_false, not_or] at hmem
  simp [Scan.step, Operator.ofSymbol?, hmem, scan, stack, write, output]

theorem scan_step_rightParen (y : Yard) :
    y.scan.step ')' =
      match y.step .rightParen with
      | ⟨some e, _⟩ => .error e
      | ⟨none, z⟩ => .ok z.scan := by
  have hclose : y.scan.step ')' = Scan.close y.stack y.output := rfl
  rw [hclose, ← Scan.result_closeLoop, closeLoop_stack]
  rcases y.step .rightParen with ⟨_ | e, z⟩ <;> rfl

theorem stack_ne_nil_of_endsBlank (h : Tracks front y) (hb : y.endsBlank = true) : y.stack ≠ [] := by
  have hshows := h.shows
  rcases htrail : trail front with _ | ⟨p, n⟩ <;> rw [htrail] at hshows
  · rw [Shows, hb] at hshows
    cases hshows
  · obtain ⟨-, below, hstack⟩ := hshows
    rw [hstack]
    simp

/-- A blank at the end of the text is enough for two operators to be adjacent: it shows that one waits. -/
theorem scan_step_operator (h : Tracks front y) (op : Operator) :
    y.scan.step op.symbol =
      match y.adjacency? op with
      | some e => .error e
      | none => .ok (y.place op).scan := by
  by_cases hb : y.endsBlank = true
  · have hlast := y.endsBlank_iff.1 hb
    obtain ⟨top, below, hstack⟩ := List.exists_cons_of_ne_nil (stack_ne_nil_of_endsBlank h hb)
    simp [Scan.step, adjacency?, scan, hb, hlast, hstack, Scan.topSymbol]
  · have hlast : ¬ y.scan.output.getLast? = some ' ' := mt y.endsBlank_iff.2 hb
    have hplace : (y.place op).scan = ⟨.operator op :: (y.settle op.precedence).stack,
        (y.settle op.precedence).output ++ [' ']⟩ := by
      rw [place_eq, scan, stack_hold]
      simp [hold, output]
    have hpop : Scan.popTighter op.precedence y.scan.stack y.scan.output = (y.settle op.precedence).scan :=
      scan_popTighter y op.precedence
    have hfree : y.adjacency? op = none := adjacency?_of_not_endsBlank (by simpa using hb) op
    simp only [Scan.step, Operator.ofSymbol?_symbol, if_neg hlast, hpop, hfree, hplace]
    rfl

theorem run_literal {w : Text} (hw : ∀ c ∈ w, isLiteralChar c = true) (rest : Text) :
    y.scan.run (w ++ rest) = (y.write w).scan.run rest := by
  induction w generalizing y with
  | nil => rfl
  | cons c w ih =>
    have hwrite : (y.write [c]).write w = y.write (c :: w) := by simp [write]
    rw [List.cons_append, Scan.run_cons_of_ok (scan_step_literal (hw c (by simp))),
      ih fun d hd => hw d (by simp [hd]), hwrite]

/-- The characters of a terminal take the scan where the terminal takes the yard. -/
theorem run_spelling (h : Tracks front y) {t : Terminal} (ht : ∀ w, t = .literal w → IsLiteral w) (rest : Text) :
    y.scan.run (t.spelling ++ rest) =
      match y.step t with
      | ⟨some e, _⟩ => .error e
      | ⟨none, z⟩ => z.scan.run rest := by
  cases t with
  | literal w => exact run_literal (fun c hc => isLiteralChar_iff.2 ((ht w rfl).2 c hc)) rest
  | leftParen => exact Scan.run_cons_of_ok (show y.scan.step '(' = .ok y.enter.scan from rfl) rest
  | rightParen =>
    have hstep := y.scan_step_rightParen
    rcases hfed : y.step .rightParen with ⟨_ | e, z⟩ <;> rw [hfed] at hstep
    · exact Scan.run_cons_of_ok hstep rest
    · exact Scan.run_cons_of_error hstep rest
  | operator op =>
    have hstep := scan_step_operator h op
    rw [Terminal.spelling_operator, List.singleton_append]
    cases hadj : y.adjacency? op with
    | some e =>
      rw [hadj] at hstep
      rw [step_operator_some hadj]
      exact Scan.run_cons_of_error hstep rest
    | none =>
      rw [hadj] at hstep
      rw [step_operator_none hadj]
      exact Scan.run_cons_of_ok hstep rest

/-- The characters of terminals take the scan where the terminals take the yard. -/
theorem run_flatMap_spelling (h : Tracks front y) {ts : List Terminal} (hts : ∀ w, .literal w ∈ ts → IsLiteral w) :
    y.scan.run (ts.flatMap Terminal.spelling) =
      match y.read ts with
      | .error e => .error e
      | .ok z => z.finish := by
  induction ts generalizing front y with
  | nil => exact scan_drain y
  | cons t ts ih =>
    have ht : ∀ w, t = .literal w → IsLiteral w := fun w hw => hts w (by simp [hw])
    rw [List.flatMap_cons, run_spelling h ht]
    rcases h.step ht with ⟨z, hstep, hz, -⟩ | ⟨e, herror, -⟩
    · rw [hstep, read_cons_of_ok hstep]
      exact ih hz fun w hw => hts w (by simp [hw])
    · rw [read_cons_of_error herror]
      rcases hstep : y.step t with ⟨_ | d, z⟩ <;> rw [hstep] at herror <;> cases herror
      rfl

end Yard

/-! ## Texts -/

theorem isBlankText_iff_stripBlanks {text : Text} : isBlankText text = true ↔ stripBlanks text = [] := by
  simp [isBlankText, stripBlanks]

theorem toPostfix_eq_scan_stripBlanks (source : Text) : toPostfix source = Scan.toPostfix (stripBlanks source) := by
  cases hb : isBlankText source with
  | true => rw [isBlankText_iff_stripBlanks.1 hb, toPostfix, hb]; rfl
  | false =>
    have hne : stripBlanks source ≠ [] := mt isBlankText_iff_stripBlanks.2 (by simp [hb])
    rw [toPostfix_eq_read hb, Scan.toPostfix, if_neg hne, ← flatMap_spelling_terminals]
    exact (Yard.run_flatMap_spelling Yard.tracks_nil (isLiteral_of_mem_terminals source)).symm

theorem toPostfix_congr {s t : Text} (h : stripBlanks s = stripBlanks t) : toPostfix s = toPostfix t := by
  rw [toPostfix_eq_scan_stripBlanks, toPostfix_eq_scan_stripBlanks, h]

theorem evaluate_congr {s t : Text} (h : stripBlanks s = stripBlanks t) : evaluate s = evaluate t := by
  rw [evaluate, evaluate, toPostfix_congr h]

/-- The second text comes of the first by inserting blanks and taking blanks out, one after the other. -/
inductive Respaced (s : Text) : Text → Prop
  | same : Respaced s s
  | insert {front back : Text} {b : Char} (rest : Respaced s (front ++ back)) (blank : isBlank b = true) :
      Respaced s (front ++ b :: back)
  | takeOut {front back : Text} {b : Char} (rest : Respaced s (front ++ b :: back)) (blank : isBlank b = true) :
      Respaced s (front ++ back)

theorem Respaced.stripBlanks_eq {s t : Text} (h : Respaced s t) : stripBlanks s = stripBlanks t := by
  induction h with
  | same => rfl
  | insert _ blank ih => simpa [stripBlanks, blank] using ih
  | takeOut _ blank ih => simpa [stripBlanks, blank] using ih

/-- The conversion by tokens is the scan of the single characters that are no blanks, its errors included. So
texts that differ in blanks alone have the same postfix text and the same value, or the same error. -/
theorem toPostfix_eq_scan :
    (∀ source, toPostfix source = Scan.toPostfix (stripBlanks source)) ∧
    ∀ s t, Respaced s t → toPostfix s = toPostfix t ∧ evaluate s = evaluate t :=
  ⟨toPostfix_eq_scan_stripBlanks, fun _ _ h => ⟨toPostfix_congr h.stripBlanks_eq, evaluate_congr h.stripBlanks_eq⟩⟩

/-- A blank inside a literal, and one between two operators that it does not keep apart. -/
theorem toPostfix_eq_scan_respaced :
    Respaced ['1', '2', '+', '*', '3'] ['1', '\t', '2', '+', ' ', '*', '3'] ∧
    toPostfix ['1', '\t', '2', '+', ' ', '*', '3'] = .error (.adjacentOperators '+' '*') := by
  have htab : Respaced ['1', '2', '+', '*', '3'] ['1', '\t', '2', '+', '*', '3'] :=
    @Respaced.insert _ ['1'] ['2', '+', '*', '3'] '\t' .same (by decide)
  have hspace : Respaced ['1', '2', '+', '*', '3'] ['1', '\t', '2', '+', ' ', '*', '3'] :=
    @Respaced.insert _ ['1', '\t', '2', '+'] ['*', '3'] ' ' htab (by decide)
  exact ⟨hspace, (toPostfix_eq_scan.2 _ _ hspace).1.symm.trans rfl⟩

end Calculator
