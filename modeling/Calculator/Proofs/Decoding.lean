import Calculator.Proofs.Conversion

/-!
# The expression of a postfix text

A postfix text can be read back: the words tell operators from numbers, and a stack of expressions takes the place of
the stack of values (`rebuild_postorder`). So nothing of an expression is lost but its parentheses. Main statement:
two sentences have the same postfix text just if they stand for the same expression (`toPostfix_eq_iff`).
-/

namespace Calculator

namespace Expression

/-- Reads words in postorder: a number is an expression, and an operator joins the two that were completed last. The
expressions that are complete lie on a stack, the latest on top; none if an operator finds too few. -/
def rebuild (stack : List Expression) : List Text → Option (List Expression)
  | [] => some stack
  | w :: later =>
    match Operator.ofWord? w, stack with
    | none, stack => rebuild (.literal w :: stack) later
    | some op, right :: left :: below => rebuild (.binary op left right :: below) later
    | some _, _ => none

/-- The expression that a postfix text writes, if it writes just one. -/
def ofPostorderText? (text : Text) : Option Expression :=
  match rebuild [] (words text) with
  | some [e] => some e
  | _ => none

/-- Behind the words of an expression the expression is on top, whatever lies below it and whatever follows. -/
theorem rebuild_postorder {e : Expression} (h : ∀ w ∈ e.leaves, Operator.ofWord? w = none) (stack : List Expression)
    (later : List Text) : rebuild stack (e.postorder ++ later) = rebuild (e :: stack) later := by
  induction e generalizing stack later with
  | literal text =>
    have ht : Operator.ofWord? text = none := h text (by simp [leaves])
    simp only [postorder, List.singleton_append, rebuild, ht]
  | binary op left right ihl ihr =>
    have hl : ∀ w ∈ left.leaves, Operator.ofWord? w = none := fun w hw => h w (by simp [leaves, hw])
    have hr : ∀ w ∈ right.leaves, Operator.ofWord? w = none := fun w hw => h w (by simp [leaves, hw])
    have hop : Operator.ofWord? [op.symbol] = some op := Operator.ofSymbol?_symbol op
    simp only [postorder, List.append_assoc, ihl hl, ihr hr, List.singleton_append, rebuild, hop]

/-- The postfix text of a sentence is read back as the expression that the sentence stands for. -/
theorem ofPostorderText?_postorderText {t : Tier} {ts : List Terminal} {e : Expression} (h : Derives t ts e) :
    ofPostorderText? e.postorderText = some e := by
  have hleaves : ∀ w ∈ e.leaves, Operator.ofWord? w = none := fun w hw =>
    (h.isLiteral_of_mem_leaves w hw).ofWord?_eq_none
  have hrebuild := rebuild_postorder hleaves [] []
  rw [List.append_nil] at hrebuild
  rw [ofPostorderText?, words_postorderText h, hrebuild]
  rfl

end Expression

theorem toPostfix_of_writes_sentence {ts : List Terminal} {e : Expression} {source : Text}
    (h : Derives .difference ts e) (hw : Writes ts source) : toPostfix source = .ok e.postorderText := by
  rw [← h.sentence.terminals_of_writes hw] at h
  exact toPostfix_of_terminals h

/-- Two sentences are converted to one postfix text just if they stand for one expression. So a text stands for one
expression only, however it is derived, and the postfix text still tells which. -/
theorem toPostfix_eq_iff {us vs : List Terminal} {e f : Expression} {s t : Text} (hs : Derives .difference us e)
    (hws : Writes us s) (ht : Derives .difference vs f) (hwt : Writes vs t) :
    ∃ p q, toPostfix s = .ok p ∧ toPostfix t = .ok q ∧ (p = q ↔ e = f) := by
  refine ⟨_, _, toPostfix_of_writes_sentence hs hws, toPostfix_of_writes_sentence ht hwt, fun hpq => ?_, ?_⟩
  · have he := Expression.ofPostorderText?_postorderText hs
    rw [hpq, Expression.ofPostorderText?_postorderText ht] at he
    exact (Option.some.inj he).symm
  · rintro rfl
    rfl

/-- `8-(3-1)` has another postfix text than `(8-3)-1`, though without parentheses they are alike. -/
theorem toPostfix_eq_iff_differences :
    Derives .difference
      [.literal ['8'], .operator .sub, .leftParen, .literal ['3'], .operator .sub, .literal ['1'], .rightParen]
      (.binary .sub (.literal ['8']) (.binary .sub (.literal ['3']) (.literal ['1']))) ∧
    Derives .difference
      [.leftParen, .literal ['8'], .operator .sub, .literal ['3'], .rightParen, .operator .sub, .literal ['1']]
      (.binary .sub (.binary .sub (.literal ['8']) (.literal ['3'])) (.literal ['1'])) ∧
    ∃ p q, toPostfix ['8', '-', '(', '3', '-', '1', ')'] = .ok p ∧
      toPostfix ['(', '8', '-', '3', ')', '-', '1'] = .ok q ∧ p ≠ q := by
  have rule : Tier.difference.rule? = some (.sub, .sum) := rfl
  have h1 (t : Tier) : Derives t [.literal ['1']] (.literal ['1']) := .of_primary (.literal (by decide)) t
  have h3 (t : Tier) : Derives t [.literal ['3']] (.literal ['3']) := .of_primary (.literal (by decide)) t
  have h8 (t : Tier) : Derives t [.literal ['8']] (.literal ['8']) := .of_primary (.literal (by decide)) t
  have hright := Derives.binary rule (h8 _) (.of_primary (.group (.binary rule (h3 _) (h1 _))) _)
  have hleft := Derives.binary rule (.of_primary (.group (.binary rule (h8 _) (h3 _))) _) (h1 _)
  obtain ⟨p, q, hp, hq, hpq⟩ := toPostfix_eq_iff hright (writes_spelling _) hleft (writes_spelling _)
  exact ⟨hright, hleft, p, q, hp, hq, fun heq => absurd (hpq.1 heq) (by decide)⟩

end Calculator
