import Calculator.Proofs.Neighbours
import Calculator.Proofs.Run

/-!
# Converting and evaluating a sentence

A phrase of the grammar that comes when only looser operators wait in the level leaves the yard such that
writing the operators of its tier and all tighter ones gives the postorder of its expression, and
everything else as it was (`read_of_derives`). So the postfix text of a sentence is the postorder
(`toPostfix_of_terminals`), which is cut back into just the words that were joined: the two stages together
compute what the recursion over the expression computes, its errors included (`evaluate_of_terminals`).
-/

namespace Calculator

/-! ## The text of an expression -/

/-- The words of the postorder with a blank between each two. -/
def Expression.postorderText (e : Expression) : Text := [' '].intercalate e.postorder

theorem Expression.postorderText_binary (op : Operator) (l r : Expression) :
    (binary op l r).postorderText = l.postorderText ++ ' ' :: r.postorderText ++ [' ', op.symbol] := by
  have hl := l.postorder_ne_nil
  have hr := r.postorder_ne_nil
  rw [postorderText, postorder, intercalate_append (by simp [hl]) (by simp), intercalate_append hl hr]
  simp [postorderText]

namespace Yard

/-! ## Settling operators -/

/-- Writes the operators on top of the level that bind at `k` or tighter. -/
def settle (y : Yard) (k : Nat) : Yard :=
  { y.emitAll (y.level.takeWhile (k ≤ ·.precedence)) with level := y.level.dropWhile (k ≤ ·.precedence) }

/-- Lets an operator wait on top of the level. -/
def hold (y : Yard) (op : Operator) : Yard := { y with level := op :: y.level, written := ' ' :: y.written }

/-- An operator settles all that binds at least as tightly, and then waits. -/
theorem place_eq (y : Yard) (op : Operator) : y.place op = (y.settle op.precedence).hold op := by
  simp [place, due, settle, hold]

theorem written_emitAll (y : Yard) (ops : List Operator) :
    (y.emitAll ops).written = ops.foldl (fun text op => op.symbol :: ' ' :: text) y.written := by
  induction ops generalizing y with
  | nil => rfl
  | cons op ops ih => exact ih (y.emit op)

theorem settle_cons {y : Yard} {op : Operator} {below : List Operator} (h : y.level = op :: below) {k : Nat}
    (hk : k ≤ op.precedence) : y.settle k = ({ y.emit op with level := below } : Yard).settle k := by
  simp [settle, h, hk, written_emitAll, emit]

/-- Nothing settles below an operator that binds looser. -/
theorem settle_of_lt {y : Yard} {k : Nat} (h : ∀ op ∈ y.level.head?, op.precedence < k) : y.settle k = y := by
  obtain ⟨level, outer, written⟩ := y
  cases level with
  | nil => rfl
  | cons op below =>
    have : ¬ k ≤ op.precedence := Nat.not_le.2 (h op rfl)
    simp [settle, this, emitAll]

theorem settle_settle (y : Yard) {j k : Nat} (h : j ≤ k) : (y.settle k).settle j = y.settle j := by
  obtain ⟨level, outer, written⟩ := y
  induction level generalizing written with
  | nil => rfl
  | cons op below ih =>
    by_cases hk : k ≤ op.precedence
    · have hj := settle_cons (y := ⟨op :: below, outer, written⟩) rfl (Nat.le_trans h hk)
      rw [settle_cons rfl hk, hj]
      exact ih _
    · have hlt : ∀ o ∈ (op :: below).head?, o.precedence < k := by simpa using hk
      rw [settle_of_lt (k := k) hlt]

/-- The operator that waits between two texts settles behind the second one. -/
theorem settle_hold_write {y : Yard} {k : Nat} (hy : ∀ op ∈ y.level.head?, op.precedence < k) {op : Operator}
    (hop : k ≤ op.precedence) (a b : Text) :
    (((y.write a).hold op).write b).settle k = y.write (a ++ ' ' :: b ++ [' ', op.symbol]) := by
  rw [settle_cons rfl hop, settle_of_lt (by exact hy)]
  simp [hold, write, emit]

theorem settle_one (y : Yard) : y.settle 1 = y.drain := by
  obtain ⟨level, outer, written⟩ := y
  induction level generalizing written with
  | nil => rfl
  | cons op below ih =>
    have hop : 1 ≤ op.precedence := by cases op <;> decide
    rw [settle_cons rfl hop]
    exact (ih _).trans (by simp [drain, written_emitAll, emit])

/-! ## The end of the text -/

theorem endsBlank_write {w : Text} (h : IsLiteral w) (y : Yard) : (y.write w).endsBlank = false := by
  obtain ⟨c, init, hw⟩ : ∃ c init, w.reverse = c :: init :=
    List.exists_cons_of_ne_nil (by simpa using h.1)
  have hc : isBlank c = false := (h.2 c (by rw [← List.mem_reverse, hw]; simp)).1
  have hne : c ≠ ' ' := by
    rintro rfl
    simp [isBlank_space] at hc
  simp [endsBlank, write, hw, hne]

theorem endsBlank_emit (y : Yard) (op : Operator) : (y.emit op).endsBlank = false := by
  cases op <;> rfl

theorem endsBlank_emitAll {y : Yard} (h : y.endsBlank = false) (ops : List Operator) :
    (y.emitAll ops).endsBlank = false := by
  induction ops generalizing y with
  | nil => exact h
  | cons op ops ih => exact ih (endsBlank_emit y op)

theorem endsBlank_drain {y : Yard} (h : y.endsBlank = false) : y.drain.endsBlank = false :=
  endsBlank_emitAll h y.level

/-! ## Phrases -/

theorem read_of_derives {t : Tier} {ts : List Terminal} {e : Expression} (h : Derives t ts e) {y : Yard}
    (hy : ∀ op ∈ y.level.head?, op.precedence < t.level) :
    ∃ z, y.read ts = .ok z ∧ z.endsBlank = false ∧ z.settle t.level = y.write e.postorderText := by
  induction h generalizing y with
  | @pass t u op ts e rule inner ih =>
    obtain ⟨ht, hu⟩ := Tier.level_of_rule rule
    obtain ⟨z, hz, hend, hset⟩ := ih fun o ho => by have := hy o ho; omega
    refine ⟨z, hz, hend, ?_⟩
    rw [← settle_settle z (show t.level ≤ u.level by omega), hset]
    exact settle_of_lt (y := y.write e.postorderText) hy
  | @binary t u op ts us l r rule left right ihl ihr =>
    obtain ⟨ht, hu⟩ := Tier.level_of_rule rule
    obtain ⟨x, hx, hxend, hxset⟩ := ihl hy
    -- behind the operator the left operand stands written and only the operator waits above `y`
    have hplace : x.place op = (y.write l.postorderText).hold op := by rw [place_eq, ← ht, hxset]
    obtain ⟨z, hz, hzend, hzset⟩ := ihr (y := (y.write l.postorderText).hold op) fun o ho => by
      cases ho
      omega
    refine ⟨z, ?_, hzend, ?_⟩
    · rw [read_append_of_ok hx, read_cons_of_ok (step_operator_none (adjacency?_of_not_endsBlank hxend op)),
        hplace, hz]
    · rw [← settle_settle z (show t.level ≤ u.level by omega), hzset, settle_hold_write hy (by omega),
        Expression.postorderText_binary]
  | @literal w h =>
    refine ⟨y.write w, rfl, endsBlank_write h y, ?_⟩
    rw [Expression.postorderText, Expression.postorder, List.intercalate_singleton]
    exact settle_of_lt (y := y.write w) hy
  | @group ts e inner ih =>
    obtain ⟨x, hx, hend, hset⟩ := ih (y := y.enter) (by simp [enter])
    rw [Tier.level, settle_one] at hset
    have houter : x.outer = y.level :: y.outer := by
      have := congrArg outer hset
      rwa [drain, outer_emitAll] at this
    have hleave : x.leave y.level y.outer = y.write e.postorderText := by
      rw [leave, hset]
      rfl
    refine ⟨y.write e.postorderText, ?_, ?_, settle_of_lt (y := y.write e.postorderText) hy⟩
    · rw [List.cons_append, read_cons_of_ok (step_leftParen y), read_append_of_ok hx,
        read_cons_of_ok (step_rightParen_cons houter), hleave, read_nil]
    · rw [← hleave]
      exact endsBlank_drain hend

theorem finish_of_derives {ts : List Terminal} {e : Expression} (h : Derives .difference ts e) :
    ∃ z, ({} : Yard).read ts = .ok z ∧ z.finish = .ok e.postorderText := by
  obtain ⟨z, hz, -, hset⟩ := read_of_derives h (y := {}) (by simp)
  rw [Tier.level, settle_one] at hset
  have houter : z.outer = [] := by
    have := congrArg outer hset
    rwa [drain, outer_emitAll] at this
  refine ⟨z, hz, ?_⟩
  rw [finish, houter]
  simp [hset, write, output]

end Yard

/-! ## Texts -/

theorem LiteralsMeet.juxtaposed {ts : List Terminal} (h : LiteralsMeet ts) : Juxtaposed ts := by
  obtain ⟨front, back, v, w, rfl⟩ := h
  exact ⟨front, .literal v, .literal w, back, rfl, rfl, rfl⟩

theorem Sentence.terminals_of_writes {ts : List Terminal} (h : Sentence ts) {source : Text}
    (hw : Writes ts source) : terminals source = ts := by
  have hplace := h.wellPlaced_append []
  rw [List.append_nil] at hplace
  exact Calculator.terminals_of_writes hw h.isLiteral fun hm =>
    not_juxtaposed_of_wellPlaced hplace hm.juxtaposed

theorem isBlankText_of_terminals {source : Text} (h : terminals source ≠ []) : isBlankText source = false := by
  refine Bool.eq_false_iff.2 fun hb => h ?_
  simpa using terminals_append_blank hb []

theorem toPostfix_of_terminals {source : Text} {e : Expression} (h : Derives .difference (terminals source) e) :
    toPostfix source = .ok e.postorderText := by
  obtain ⟨z, hz, hfin⟩ := Yard.finish_of_derives h
  rw [toPostfix_eq_read (isBlankText_of_terminals h.sentence.ne_nil), hz, ← hfin]

/-- A text that writes a sentence is converted to the postorder of the expression: numbers as they are
written, parentheses gone, a single blank between each two words and none around them. -/
theorem toPostfix_of_derives {ts : List Terminal} {e : Expression} {source : Text}
    (h : Derives .difference ts e) (hw : Writes ts source) :
    toPostfix source = .ok ([' '].intercalate e.postorder) := by
  rw [← h.sentence.terminals_of_writes hw] at h
  exact toPostfix_of_terminals h

/-- `8-(3 )` and ` - 1` in one text: the left difference comes first, the parentheses go. -/
theorem toPostfix_of_derives_difference :
    Derives .difference
      [.literal ['8'], .operator .sub, .leftParen, .literal ['3'], .rightParen, .operator .sub, .literal ['1']]
      (.binary .sub (.binary .sub (.literal ['8']) (.literal ['3'])) (.literal ['1'])) ∧
    toPostfix ['8', '-', '(', '3', ' ', ')', '\t', '-', ' ', '1'] =
      .ok ['8', ' ', '3', ' ', '-', ' ', '1', ' ', '-'] := by
  have h8 : Derives .difference [.literal ['8']] (.literal ['8']) := .of_primary (.literal (by decide)) _
  have h3 : Derives .sum [.leftParen, .literal ['3'], .rightParen] (.literal ['3']) :=
    .of_primary (.group (.of_primary (.literal (by decide)) _)) _
  have h1 : Derives .sum [.literal ['1']] (.literal ['1']) := .of_primary (.literal (by decide)) _
  have rule : Tier.difference.rule? = some (.sub, .sum) := rfl
  have hder := Derives.binary rule (.binary rule h8 h3) h1
  refine ⟨hder, toPostfix_of_derives hder ?_⟩
  refine @Writes.cons [] _ _ ['-', '(', '3', ' ', ')', '\t', '-', ' ', '1'] rfl ?_
  refine @Writes.cons [] _ _ ['(', '3', ' ', ')', '\t', '-', ' ', '1'] rfl ?_
  refine @Writes.cons [] _ _ ['3', ' ', ')', '\t', '-', ' ', '1'] rfl ?_
  refine @Writes.cons [] _ _ [' ', ')', '\t', '-', ' ', '1'] rfl ?_
  refine @Writes.cons [' '] _ _ ['\t', '-', ' ', '1'] (by decide) ?_
  refine @Writes.cons ['\t'] _ _ [' ', '1'] (by decide) ?_
  exact @Writes.cons [' '] _ _ [] (by decide) (.nil rfl)

/-! ## The value of a sentence -/

theorem words_postorderText {t : Tier} {ts : List Terminal} {e : Expression} (h : Derives t ts e) :
    words e.postorderText = e.postorder :=
  words_intercalate (Expression.isWord_of_mem_postorder fun w hw => (h.isLiteral_of_mem_leaves w hw).isWord)

theorem evaluate_of_terminals {source : Text} {e : Expression} (h : Derives .difference (terminals source) e) :
    evaluate source = e.value := by
  rw [evaluate, toPostfix_of_terminals h]
  exact Expression.evaluatePostfix_of_words (fun w hw => (h.isLiteral_of_mem_leaves w hw).ofWord?_eq_none)
    (words_postorderText h)

/-- A text that writes a sentence has the value of the expression, and its error where that has one; no
error ever blames its form. -/
theorem evaluate_of_derives {ts : List Terminal} {e : Expression} {source : Text}
    (h : Derives .difference ts e) (hw : Writes ts source) :
    evaluate source = e.value ∧ ∀ err, evaluate source = .error err → err.isStructural = false := by
  rw [← h.sentence.terminals_of_writes hw] at h
  rw [evaluate_of_terminals h]
  exact ⟨rfl, fun err herr => Expression.isStructural_of_value herr⟩

/-- `x`, no number, comes too late in `1/0 +x`. -/
theorem evaluate_of_derives_error :
    Derives .difference
      [.literal ['1'], .operator .div, .literal ['0'], .operator .add, .literal ['x']]
      (.binary .add (.binary .div (.literal ['1']) (.literal ['0'])) (.literal ['x'])) ∧
    evaluate ['1', '/', '0', ' ', '+', 'x'] = .error .divideByZero := by
  have h1 : Derives .quotient [.literal ['1']] (.literal ['1']) := .of_primary (.literal (by decide)) _
  have h0 : Derives .product [.literal ['0']] (.literal ['0']) := .of_primary (.literal (by decide)) _
  have hx : Derives .quotient [.literal ['x']] (.literal ['x']) := .of_primary (.literal (by decide)) _
  have low : Tier.difference.rule? = some (.sub, .sum) := rfl
  have plus : Tier.sum.rule? = some (.add, .quotient) := rfl
  have slash : Tier.quotient.rule? = some (.div, .product) := rfl
  have hder := Derives.pass low (.binary plus (.pass plus (.binary slash h1 h0)) hx)
  refine ⟨hder, (evaluate_of_derives hder ?_).1.trans rfl⟩
  refine @Writes.cons [] _ _ ['/', '0', ' ', '+', 'x'] rfl ?_
  refine @Writes.cons [] _ _ ['0', ' ', '+', 'x'] rfl ?_
  refine @Writes.cons [] _ _ [' ', '+', 'x'] rfl ?_
  refine @Writes.cons [' '] _ _ ['x'] (by decide) ?_
  exact @Writes.cons [] _ _ [] rfl (.nil rfl)

end Calculator
