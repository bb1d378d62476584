import Calculator.Program
import Calculator.Proofs.Batch
import Calculator.Proofs.Numerals

/-!
# What is printed

A result is shown on a line of its own. The sentence of an error may quote a word of the input, but no blank other
than a space gets that far: a word holds none, and the other sentences hold spaces only. So no input breaks a line
in two or adds one, and the mark in front of an error, which no value has, tells the results apart. Main statement:
the lines printed by a batch or a session, and the exit code, tell just what happened (`output_records_results`).
-/

namespace Calculator

/-! ## Texts without line breaks -/

/-- A text without blanks other than spaces. -/
def OnlySpaces (text : Text) : Prop := ∀ c ∈ text, isBlank c = true → c = ' '

instance (text : Text) : Decidable (OnlySpaces text) := List.decidableBAll _ text

theorem onlySpaces_append {v w : Text} : OnlySpaces (v ++ w) ↔ OnlySpaces v ∧ OnlySpaces w := by
  simp only [OnlySpaces, List.mem_append]
  constructor
  · intro h
    exact ⟨fun c hc => h c (.inl hc), fun c hc => h c (.inr hc)⟩
  · rintro ⟨hv, hw⟩ c (hc | hc)
    · exact hv c hc
    · exact hw c hc

theorem onlySpaces_of_not_isBlank {text : Text} (h : ∀ c ∈ text, isBlank c = false) : OnlySpaces text := by
  intro c hc hb
  rw [h c hc] at hb
  cases hb

theorem OnlySpaces.not_mem {text : Text} (h : OnlySpaces text) {c : Char} (hb : isBlank c = true) (hc : c ≠ ' ') :
    c ∉ text := fun hmem => hc (h c hmem hb)

theorem isBlank_lineFeed : isBlank '\n' = true := by decide

theorem isBlank_carriageReturn : isBlank '\r' = true := by decide

theorem isBlank_symbol (op : Operator) : isBlank op.symbol = false := by cases op <;> decide

/-- The words of a text are words. -/
theorem isWord_of_mem_words {text w : Text} (h : w ∈ words text) : IsWord w := by
  induction text generalizing w with
  | nil => simp at h
  | cons c rest ih =>
    by_cases hc : isBlank c = true
    · rw [words_blank hc] at h
      exact ih h
    · have hb : isBlank c = false := by simpa using hc
      rw [words, if_neg hc] at h
      split at h
      · rcases List.mem_cons.1 h with rfl | h
        · exact isWord_singleton hb
        · exact ih h
      · cases hw : words rest with
        | nil =>
          rw [hw, joinWord, List.mem_singleton] at h
          rw [h]
          exact isWord_singleton hb
        | cons v later =>
          rw [hw] at ih h
          rcases List.mem_cons.1 h with rfl | h
          · refine ⟨by simp, fun x hx => ?_⟩
            rcases List.mem_cons.1 hx with rfl | hx
            · exact hb
            · exact (ih (List.mem_cons_self ..)).2 x hx
          · exact ih (List.mem_cons_of_mem _ h)

/-! ## The sentences of errors -/

/-- A sentence holds no line break if the text that it quotes holds none. -/
theorem onlySpaces_message {e : ExpressionError}
    (h : match e with
      | .adjacentOperators previous current => isBlank previous = false ∧ isBlank current = false
      | .invalidNumber atom => ∀ c ∈ atom, isBlank c = false
      | .unsupportedOperator symbol => isBlank symbol = false
      | _ => True) : OnlySpaces e.message := by
  have hchar {c : Char} (hc : isBlank c = false) : OnlySpaces [c] :=
    onlySpaces_of_not_isBlank (by simpa using hc)
  cases e with
  | adjacentOperators previous current =>
    have hfront : OnlySpaces ("Operators ".toList ++ [previous]) := onlySpaces_append.2 ⟨by decide, hchar h.1⟩
    have hmiddle := onlySpaces_append.2 ⟨hfront, (by decide : OnlySpaces " and ".toList)⟩
    have hback := onlySpaces_append.2 ⟨hmiddle, hchar h.2⟩
    exact onlySpaces_append.2 ⟨hback, by decide⟩
  | invalidNumber atom => exact onlySpaces_append.2 ⟨onlySpaces_of_not_isBlank h, by decide⟩
  | unsupportedOperator symbol => exact onlySpaces_append.2 ⟨hchar h, by decide⟩
  | emptyExpression => decide
  | missingLeftParenthesis => decide
  | missingRightParenthesis => decide
  | tooManyOperators => decide
  | divideByZero => decide
  | numericOverflow => decide

namespace Yard

theorem isBlank_entry_symbol (entry : Entry) : isBlank entry.symbol = false := by
  cases entry with
  | operator op => exact isBlank_symbol op
  | leftParen => decide

theorem onlySpaces_of_step {y : Yard} {t : Terminal} {e : ExpressionError} (h : (y.step t).error? = some e) :
    OnlySpaces e.message := by
  cases t with
  | literal w => simp at h
  | leftParen => simp at h
  | rightParen =>
    cases ho : y.outer with
    | nil =>
      rw [step_rightParen_nil ho] at h
      cases h
      decide
    | cons level outer =>
      rw [step_rightParen_cons ho] at h
      cases h
  | operator op =>
    cases hadj : y.adjacency? op with
    | none =>
      rw [step_operator_none hadj] at h
      cases h
    | some cause =>
      rw [step_operator_some hadj] at h
      cases h
      unfold adjacency? at hadj
      split at hadj
      · obtain ⟨top, -, rfl⟩ := Option.map_eq_some_iff.1 hadj
        exact onlySpaces_message ⟨isBlank_entry_symbol top, isBlank_symbol op⟩
      · cases hadj

theorem onlySpaces_of_read {y : Yard} {ts : List Terminal} {e : ExpressionError} (h : y.read ts = .error e) :
    OnlySpaces e.message := by
  induction ts generalizing y with
  | nil => cases h
  | cons t ts ih =>
    rcases hs : y.step t with ⟨_ | cause, z⟩
    · rw [read_cons_of_ok hs] at h
      exact ih h
    · have hcause : (y.step t).error? = some cause := by rw [hs]
      rw [read_cons_of_error hcause] at h
      cases h
      exact onlySpaces_of_step hcause

theorem onlySpaces_of_finish {y : Yard} {e : ExpressionError} (h : y.finish = .error e) : OnlySpaces e.message := by
  unfold finish at h
  split at h
  · cases h
  · cases h
    decide

end Yard

theorem onlySpaces_of_toPostfix {source : Text} {e : ExpressionError} (h : toPostfix source = .error e) :
    OnlySpaces e.message := by
  by_cases hblank : isBlankText source = true
  · rw [toPostfix, if_pos hblank] at h
    cases h
    decide
  · rw [toPostfix_eq_read (by simpa using hblank)] at h
    split at h
    next cause hread =>
      cases h
      exact Yard.onlySpaces_of_read hread
    next z hread => exact Yard.onlySpaces_of_finish h

theorem onlySpaces_of_operand {w : Text} {e : ExpressionError} (hw : IsWord w) (h : operand w = .error e) :
    OnlySpaces e.message := by
  unfold operand at h
  split at h
  · cases h
    exact onlySpaces_message hw.2
  · split at h <;> cases h
    decide

theorem onlySpaces_of_apply {op : Operator} {a b : Decimal} {e : ExpressionError} (h : op.apply a b = .error e) :
    OnlySpaces e.message := by
  simp only [Operator.apply] at h
  split at h
  · cases h
    decide
  · split at h <;> cases h
    decide

theorem onlySpaces_of_takeWord {stack : List Decimal} {w : Text} {e : ExpressionError} (hw : IsWord w)
    (h : takeWord stack w = .error e) : OnlySpaces e.message := by
  rcases takeWord_error_cases h with ⟨-, -, rfl⟩ | ⟨op, left, right, below, -, -, happly⟩ | ⟨-, hoperand⟩
  · decide
  · exact onlySpaces_of_apply happly
  · exact onlySpaces_of_operand hw hoperand

theorem onlySpaces_of_takeWords {stack : List Decimal} {ws : List Text} {e : ExpressionError}
    (hws : ∀ w ∈ ws, IsWord w) (h : takeWords stack ws = .error e) : OnlySpaces e.message := by
  obtain ⟨front, w, later, next, rfl, -, hw⟩ := takeWords_eq_error_iff.1 h
  exact onlySpaces_of_takeWord (hws w (by simp)) hw

/-- The sentence of an error holds no line break, whatever the text was. -/
theorem onlySpaces_of_evaluate {source : Text} {e : ExpressionError} (h : evaluate source = .error e) :
    OnlySpaces e.message := by
  unfold evaluate at h
  split at h
  next cause hpostfix =>
    cases h
    exact onlySpaces_of_toPostfix hpostfix
  next text hpostfix =>
    rw [evaluatePostfix_eq_finalStack] at h
    split at h
    next cause hfinal =>
      cases h
      exact onlySpaces_of_takeWords (fun w hw => isWord_of_mem_words hw) hfinal
    next =>
      cases h
      decide
    next => cases h

/-! ## Values -/

namespace Decimal

/-- A decimal is written with digits, a minus sign and a point. -/
theorem mem_text {d : Decimal} {c : Char} (h : c ∈ d.text) : c = '-' ∨ c = '.' ∨ c.isDigit = true := by
  unfold text at h
  rw [List.mem_append, List.mem_append] at h
  rcases h with (h | h) | h
  · split at h
    · exact .inl (by simpa using h)
    · cases h
  · exact .inr (.inr (Nat.isDigit_of_mem_toDigits (by decide) (by decide) h))
  · split at h
    · cases h
    · rcases List.mem_cons.1 h with rfl | h
      · exact .inr (.inl rfl)
      · exact .inr (.inr (allDigits_lastDigits _ _ _ h))

theorem onlySpaces_text (d : Decimal) : OnlySpaces d.text := by
  refine onlySpaces_of_not_isBlank fun c hc => ?_
  rcases mem_text hc with rfl | rfl | hdigit
  · decide
  · decide
  · exact isBlank_of_isDigit hdigit

end Decimal

/-! ## Lines -/

/-- What every result shown starts with. -/
def resultMark : Text := "=> ".toList

/-- What an error shown starts with. -/
def errorMark : Text := "=> Invalid expression: ".toList

theorem resultMark_isPrefix_render (result : Except ExpressionError Decimal) : resultMark <+: render result := by
  cases result with
  | ok v => exact List.prefix_append _ _
  | error e =>
    refine List.IsPrefix.trans ?_ (List.prefix_append errorMark e.message)
    decide

/-- Values do not pass for errors: none has an `I` where the mark of an error has one. -/
theorem errorMark_isPrefix_render (result : Except ExpressionError Decimal) :
    errorMark.isPrefixOf (render result) = !result.isOk := by
  cases result with
  | ok v =>
    refine Bool.eq_false_iff.2 fun h => ?_
    obtain ⟨rest, hrest⟩ := List.isPrefixOf_iff_prefix.1 h
    have hmark : errorMark = resultMark ++ "Invalid expression: ".toList := rfl
    rw [hmark, List.append_assoc] at hrest
    have htext : "Invalid expression: ".toList ++ rest = v.text := List.append_cancel_left hrest
    have hmem : 'I' ∈ v.text := htext ▸ List.mem_append_left _ (by decide)
    rcases Decimal.mem_text hmem with hc | hc | hc <;> revert hc <;> decide
  | error e => exact List.isPrefixOf_iff_prefix.2 (List.prefix_append errorMark e.message)

theorem onlySpaces_render_evaluate (line : Text) : OnlySpaces (render (evaluate line)) := by
  cases h : evaluate line with
  | ok v => exact onlySpaces_append.2 ⟨by decide, v.onlySpaces_text⟩
  | error e => exact onlySpaces_append.2 ⟨by decide, onlySpaces_of_evaluate h⟩

/-- Lines that are printed are found again, if none of them holds a line break of its own. -/
theorem lines_printed {ls : List Text} (h : ∀ l ∈ ls, OnlySpaces l) : lines (printed ls) = ls := by
  induction ls with
  | nil => rfl
  | cons l ls ih =>
    have hl := h l (List.mem_cons_self ..)
    have hcr : l.getLast? ≠ some '\r' := fun hlast =>
      hl.not_mem isBlank_carriageReturn (by decide) (List.mem_of_getLast? hlast)
    have hrest : lines (printed ls) = ls := ih fun m hm => h m (List.mem_cons_of_mem _ hm)
    have hprinted : printed (l :: ls) = l ++ '\n' :: printed ls := by simp [printed]
    rw [hprinted, lines_append (hl.not_mem isBlank_lineFeed (by decide)) fun hlast => absurd hlast hcr, lines,
      foldr_joinWord_nil_cons, hrest]

/-! ## Batches -/

namespace Batch

theorem failed_ofText (source : Text) : (ofText source).failed = (ofText source).out.countP errorMark.isPrefixOf := by
  simp only [ofText, List.countP_map]
  refine List.countP_congr fun line _ => ?_
  simp [errorMark_isPrefix_render, isInvalid]

theorem onlySpaces_of_mem_out {source line : Text} (h : line ∈ (ofText source).out) :
    resultMark <+: line ∧ OnlySpaces line := by
  obtain ⟨expression, -, rfl⟩ := List.mem_map.1 h
  exact ⟨resultMark_isPrefix_render _, onlySpaces_render_evaluate expression⟩

end Batch

namespace Program

/-- The text that a batch takes its expressions from: that of a file, or of the standard input. -/
def source (w : Surroundings) : Option Text → Except FileError Text
  | none => decode w.input
  | some path => w.directory.read path

/-- A run that evaluates a text that can be read prints the lines of the batch. -/
theorem exists_run_eval {w : Surroundings} {args : List Text} {call : Invocation} {input : Option Text} {text : Text}
    (hargs : Arguments.parse args = .ok call) (hcall : call.command = some (.eval input))
    (htext : source w input = .ok text) :
    ∃ r, run w args = .ok (r, w.directory) ∧ r.stdout = printed (Batch.ofText text).out ∧
      r.code = if (Batch.ofText text).failed = 0 then 0 else 1 := by
  have hperform (f : Filter) : perform f w (.eval input) = (.batch f input (.ok text), w.directory) := by
    cases input <;> rw [source] at htext <;> rw [perform, htext]
  refine ⟨{ Report.batch (filter w.environment call.verbosity) input (.ok text) with
    stderr := complaints w.environment ++
      (Report.batch (filter w.environment call.verbosity) input (.ok text)).stderr }, ?_, rfl, rfl⟩
  simp only [run, hargs, hcall, Option.getD_some, hperform]

end Program

/-! ## Sessions -/

namespace Session

/-- The first line of an answer shows an error. -/
def answersError (line : Text) : Bool := (reply line).out.head?.any errorMark.isPrefixOf

theorem answersError_of_isExit {line : Text} (h : isExit line = true) : answersError line = false := by
  simp [answersError, reply, h]

theorem answersError_of_not_isExit {line : Text} (h : isExit line = false) : answersError line = isInvalid line := by
  simp [answersError, reply, h, errorMark_isPrefix_render, isInvalid]

theorem count_of_isExit {line : Text} (h : isExit line = true) (s : Session) : s.count line = s := by
  simp [count, h]

/-- A session counts its answers, those that show an error apart. -/
theorem foldl_count_eq (ls : List Text) (s : Session) :
    ls.foldl count s = ⟨s.evaluated + ls.countP (!isExit ·), s.failed + ls.countP answersError⟩ := by
  induction ls generalizing s with
  | nil => rfl
  | cons line ls ih =>
    rw [List.foldl_cons, ih]
    cases hexit : isExit line with
    | true => simp [count_of_isExit hexit, answersError_of_isExit hexit, hexit]
    | false =>
      rw [count_of_not_isExit hexit]
      cases hinvalid : isInvalid line <;>
        simp [answersError_of_not_isExit hexit, hexit, hinvalid] <;> omega

end Session

/-! ## All that is printed -/

/-- A batch shows one line for each expression, with the mark of a result and without line breaks, and counts those
with the mark of an error as failed. A run that evaluates a text that can be read prints these lines so that they
are found again, and its exit code is 1 just if one of them has the mark of an error. A session counts the lines
answered with that mark as failed and all lines but the word `exit` as evaluated; that word has no answer and
leaves the counts as they are. -/
theorem output_records_results :
    (∀ text : Text,
      (Batch.ofText text).out = ((lines text).filter (!isBlankText ·)).map (fun line => render (evaluate line)) ∧
      (∀ line ∈ (Batch.ofText text).out, resultMark <+: line ∧ OnlySpaces line) ∧
      (Batch.ofText text).failed = (Batch.ofText text).out.countP errorMark.isPrefixOf) ∧
    (∀ (w : Surroundings) (args : List Text) (call : Invocation) (input : Option Text) (text : Text),
      Arguments.parse args = .ok call → call.command = some (.eval input) → Program.source w input = .ok text →
      ∃ r, Program.run w args = .ok (r, w.directory) ∧ lines r.stdout = (Batch.ofText text).out ∧
        (r.code = 1 ↔ ∃ line ∈ lines r.stdout, errorMark <+: line)) ∧
    (∀ ls : List Text,
      (ls.foldl Session.count {}).failed = ls.countP Session.answersError ∧
      (ls.foldl Session.count {}).evaluated = ls.countP (!Session.isExit ·)) ∧
    ∀ (s : Session) (line : Text), Session.isExit line = true → s.count line = s ∧ (Session.reply line).out = [] := by
  refine ⟨fun text => ⟨rfl, fun line => Batch.onlySpaces_of_mem_out, Batch.failed_ofText text⟩, ?_, fun ls => ?_, ?_⟩
  · intro w args call input text hargs hcall htext
    obtain ⟨r, hrun, hstdout, hcode⟩ := Program.exists_run_eval hargs hcall htext
    have hlines : lines r.stdout = (Batch.ofText text).out := by
      rw [hstdout]
      exact lines_printed fun line hline => (Batch.onlySpaces_of_mem_out hline).2
    refine ⟨r, hrun, hlines, ?_⟩
    have hfailed : (Batch.ofText text).failed = 0 ↔ ¬ ∃ line ∈ (Batch.ofText text).out, errorMark <+: line := by
      rw [Batch.failed_ofText, List.countP_eq_zero]
      simp only [not_exists, not_and, List.isPrefixOf_iff_prefix]
    rw [hlines, hcode]
    split
    next hzero => exact ⟨nofun, fun h => absurd h (hfailed.1 hzero)⟩
    next hsome => exact ⟨fun _ => Classical.not_not.1 fun h => hsome (hfailed.2 h), fun _ => rfl⟩
  · rw [Session.foldl_count_eq]
    exact ⟨Nat.zero_add _, Nat.zero_add _⟩
  · intro s line h
    exact ⟨Session.count_of_isExit h s, by simp [Session.reply, h]⟩

/-- A file with `1+x`, where `x` has no line break to smuggle in, and `2`: one line fails, and the program says so. -/
theorem output_records_results_file :
    ∃ r, Program.run ⟨[], [], [(['f'], ['1', '+', 'x', '\n', '2'])]⟩ ["eval".toList, ['f']] =
        .ok (r, [(['f'], ['1', '+', 'x', '\n', '2'])]) ∧
      lines r.stdout = ["=> Invalid expression: x is not a valid number.".toList, "=> 2".toList] ∧ r.code = 1 := by
  have hargs : Arguments.parse ["eval".toList, ['f']] = .ok ⟨0, some (.eval (some ['f']))⟩ := by decide
  obtain ⟨r, hrun, hlines, hcode⟩ := output_records_results.2.1 ⟨[], [], [(['f'], ['1', '+', 'x', '\n', '2'])]⟩
    ["eval".toList, ['f']] _ _ ['1', '+', 'x', '\n', '2'] hargs rfl rfl
  have hout : (Batch.ofText ['1', '+', 'x', '\n', '2']).out =
      ["=> Invalid expression: x is not a valid number.".toList, "=> 2".toList] := by rfl
  rw [hout] at hlines
  refine ⟨r, hrun, hlines, hcode.2 ?_⟩
  rw [hlines]
  exact ⟨_, List.mem_cons_self .., by decide⟩

end Calculator
