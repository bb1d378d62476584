import Calculator.Proofs.CharacterScan
import Calculator.Proofs.Conservation

/-!
# Redundant parentheses

While terminals with nested parentheses are read, the levels around the yard stay as they are, and they have no
influence but that a parenthesis stands below (`Yard.Blind.read`). So a second pair of parentheses around a first one
changes nothing (`Yard.read_group_group`), nor does any pair around terminals without an operator
(`Yard.read_group_of_no_operator`) or around all of a text (`Yard.convert_group`). Main statement: this holds for the
postfix texts, the errors included, whatever stands around the parentheses (`parentheses_redundant`).
-/

namespace Calculator

/-- The terminals in parentheses. -/
def group (ts : List Terminal) : List Terminal := .leftParen :: ts ++ [.rightParen]

theorem group_ne_nil (ts : List Terminal) : group ts ≠ [] := List.cons_ne_nil _ _

theorem literal_mem_group {w : Text} {ts : List Terminal} : .literal w ∈ group ts ↔ .literal w ∈ ts := by
  simp [group]

/-! ## Texts that write terminals -/

theorem Terminal.stripBlanks_spelling {t : Terminal} (ht : ∀ w, t = .literal w → IsLiteral w) :
    stripBlanks t.spelling = t.spelling := by
  refine List.filter_eq_self.2 fun c hc => ?_
  cases hp : t.char? with
  | some p =>
    rw [spelling_of_char? hp, List.mem_singleton] at hc
    simp [hc, isBlank_of_char? hp]
  | none =>
    cases t with
    | literal w => simp [(ht w rfl).isWord.2 c hc]
    | _ => cases hp

theorem Terminal.spelling_ne_nil {t : Terminal} (ht : ∀ w, t = .literal w → IsLiteral w) : t.spelling ≠ [] := by
  cases hp : t.char? with
  | some p => simp [spelling_of_char? hp]
  | none =>
    cases t with
    | literal w => exact (ht w rfl).1
    | _ => cases hp

theorem stripBlanks_of_writes {ts : List Terminal} {text : Text} (h : Writes ts text)
    (hts : ∀ w, .literal w ∈ ts → IsLiteral w) : stripBlanks text = ts.flatMap Terminal.spelling := by
  induction h with
  | nil blank => exact isBlankText_iff_stripBlanks.1 blank
  | @cons gap t ts text blank rest ih =>
    have ht : stripBlanks t.spelling = t.spelling := Terminal.stripBlanks_spelling fun w hw => hts w (by simp [hw])
    have hgap : stripBlanks gap = [] := isBlankText_iff_stripBlanks.1 blank
    have hrest : stripBlanks text = ts.flatMap Terminal.spelling := ih fun w hw => hts w (by simp [hw])
    rw [stripBlanks] at ht hgap hrest ⊢
    rw [List.filter_append, List.filter_append, hgap, ht, hrest]
    rfl

/-- What terminals come to: the postfix text behind the last one, or the first error. -/
def Yard.convert (y : Yard) (ts : List Terminal) : Except ExpressionError Text :=
  match y.read ts with
  | .error e => .error e
  | .ok z => z.finish

/-- However terminals are written, literals that meet included, the conversion comes to what they come to. -/
theorem toPostfix_of_writes {ts : List Terminal} {text : Text} (h : Writes ts text)
    (hts : ∀ w, .literal w ∈ ts → IsLiteral w) (hne : ts ≠ []) : toPostfix text = ({} : Yard).convert ts := by
  have hspelling : ts.flatMap Terminal.spelling ≠ [] := by
    obtain ⟨t, later, rfl⟩ := List.exists_cons_of_ne_nil hne
    have ht : t.spelling ≠ [] := Terminal.spelling_ne_nil fun w hw => hts w (by simp [hw])
    simp [ht]
  rw [toPostfix_eq_scan_stripBlanks, stripBlanks_of_writes h hts, Scan.toPostfix, if_neg hspelling]
  exact Yard.run_flatMap_spelling Yard.tracks_nil hts

namespace Yard

variable {y : Yard} {b c : List (List Operator)} {ts : List Terminal}

/-! ## Further levels around a yard -/

/-- The yard with further levels around those that it has. -/
def within (y : Yard) (base : List (List Operator)) : Yard := { y with outer := y.outer ++ base }

theorem within_nil (y : Yard) : y.within [] = y := by simp [within]

theorem stack_within (y : Yard) (base : List (List Operator)) :
    (y.within base).stack = y.stack ++ base.flatMap fun level => .leftParen :: entries level := by
  simp [stack, within]

theorem place_within (y : Yard) (base : List (List Operator)) (op : Operator) :
    (y.within base).place op = (y.place op).within base := by
  simp [place, within, due, written_emitAll]

theorem leave_within (y : Yard) (base : List (List Operator)) (level : List Operator) (outer : List (List Operator)) :
    (y.within base).leave level (outer ++ base) = (y.leave level outer).within base := by
  simp [leave, drain, within, written_emitAll]

/-- An operator cannot tell these further levels apart: a parenthesis lies on top of both, or the yard is in step with
what it has read, so that it finds the operator in front in its own levels. -/
def Blind (b c : List (List Operator)) (y : Yard) : Prop := (b ≠ [] ∧ c ≠ []) ∨ ∃ front, Tracks front y

theorem Blind.adjacency? (h : Blind b c y) (op : Operator) :
    (y.within b).adjacency? op = (y.within c).adjacency? op := by
  by_cases hb : y.endsBlank = true
  · have htop : (y.within b).stack.head? = (y.within c).stack.head? := by
      rw [stack_within, stack_within]
      cases hstack : y.stack with
      | cons top below => rfl
      | nil =>
        rcases h with ⟨hb, hc⟩ | ⟨front, htracks⟩
        · obtain ⟨level, b, rfl⟩ := List.exists_cons_of_ne_nil hb
          obtain ⟨level, c, rfl⟩ := List.exists_cons_of_ne_nil hc
          rfl
        · exact absurd hstack (stack_ne_nil_of_endsBlank htracks hb)
    simp only [Yard.adjacency?, htop]
    rfl
  · have hfree (base : List (List Operator)) : (y.within base).adjacency? op = none := by
      have hno : (y.within base).endsBlank = false := Bool.eq_false_iff.2 hb
      exact adjacency?_of_not_endsBlank hno op
    rw [hfree, hfree]

/-- One step: both raise the same error, or both go on from one yard within the same levels as before. -/
theorem Blind.step (h : Blind b c y) {t : Terminal} {n : Nat} (ht : ∀ w, t = .literal w → IsLiteral w)
    (hn : nesting? y.outer.length (t :: ts) = some n) :
    (∃ e, ((y.within b).step t).error? = some e ∧ ((y.within c).step t).error? = some e) ∨
      ∃ z, (y.within b).step t = ⟨none, z.within b⟩ ∧ (y.within c).step t = ⟨none, z.within c⟩ ∧
        Blind b c z ∧ nesting? z.outer.length ts = some n := by
  cases t with
  | literal w =>
    exact .inr ⟨y.write w, rfl, rfl, h.imp_right fun ⟨_, hf⟩ => ⟨_, hf.write (ht w rfl)⟩, hn⟩
  | leftParen => exact .inr ⟨y.enter, rfl, rfl, h.imp_right fun ⟨_, hf⟩ => ⟨_, hf.enter⟩, hn⟩
  | rightParen =>
    cases houter : y.outer with
    | nil => simp [nesting?, houter] at hn
    | cons level outer =>
      have hinside (base : List (List Operator)) :
          (y.within base).step .rightParen = ⟨none, (y.leave level outer).within base⟩ := by
        rw [← leave_within]
        exact step_rightParen_cons (by simp [within, houter])
      refine .inr ⟨y.leave level outer, hinside b, hinside c, h.imp_right fun ⟨_, hf⟩ => ⟨_, hf.leave houter⟩, ?_⟩
      simpa [nesting?, houter, leave] using hn
  | operator op =>
    have hsame := h.adjacency? op
    cases hadj : (y.within b).adjacency? op with
    | some e =>
      rw [hadj] at hsame
      exact .inl ⟨e, by rw [step_operator_some hadj], by rw [step_operator_some hsame.symm]⟩
    | none =>
      rw [hadj] at hsame
      refine .inr ⟨y.place op, ?_, ?_, h.imp_right fun ⟨_, hf⟩ => ⟨_, hf.place op⟩, hn⟩
      · rw [step_operator_none hadj, place_within]
      · rw [step_operator_none hsame.symm, place_within]

/-- A run: both raise the same error, or both end at one yard within the same levels as before. -/
theorem Blind.read (h : Blind b c y) {n : Nat} (hts : ∀ w, .literal w ∈ ts → IsLiteral w)
    (hn : nesting? y.outer.length ts = some n) :
    (∃ e, (y.within b).read ts = .error e ∧ (y.within c).read ts = .error e) ∨
      ∃ z : Yard, z.outer.length = n ∧ (y.within b).read ts = .ok (z.within b) ∧
        (y.within c).read ts = .ok (z.within c) := by
  induction ts generalizing y with
  | nil => exact .inr ⟨y, by simpa [nesting?] using hn, rfl, rfl⟩
  | cons t ts ih =>
    rcases h.step (fun w hw => hts w (by simp [hw])) hn with ⟨e, hb, hc⟩ | ⟨x, hb, hc, hx, hnest⟩
    · exact .inl ⟨e, read_cons_of_error hb ts, read_cons_of_error hc ts⟩
    · rw [read_cons_of_ok hb, read_cons_of_ok hc]
      exact ih hx (fun w hw => hts w (by simp [hw])) hnest

/-! ## Parentheses around parentheses -/

/-- Where two parentheses close that have been opened one right behind the other, the second one does nothing. -/
theorem leave_leave_within (y : Yard) (level : List Operator) (outer : List (List Operator)) :
    ((y.within ([] :: level :: outer)).leave [] (level :: outer)).leave level outer =
      (y.within (level :: outer)).leave level outer := by
  simp [leave, drain, within, written_emitAll]

theorem read_group_group (hts : ∀ w, .literal w ∈ ts → IsLiteral w) (hnest : nesting? 0 ts = some 0) (y : Yard)
    (later : List Terminal) : y.read (group (group ts) ++ later) = y.read (group ts ++ later) := by
  let x : Yard := { written := y.written }
  have hone : y.enter = x.within (y.level :: y.outer) := rfl
  have htwo : y.enter.enter = x.within ([] :: y.level :: y.outer) := rfl
  have hfront : group (group ts) ++ later = .leftParen :: .leftParen :: (ts ++ .rightParen :: .rightParen :: later) := by
    simp [group]
  have hback : group ts ++ later = .leftParen :: (ts ++ .rightParen :: later) := by simp [group]
  have hblind : Blind ([] :: y.level :: y.outer) (y.level :: y.outer) x := .inl ⟨by simp, by simp⟩
  rw [hfront, hback, read_cons_of_ok (step_leftParen y), read_cons_of_ok (step_leftParen y.enter),
    read_cons_of_ok (step_leftParen y), htwo, hone]
  rcases hblind.read hts hnest with ⟨e, hb, hc⟩ | ⟨z, hz, hb, hc⟩
  · rw [read_append, hb, read_append, hc]
  · have houter : z.outer = [] := List.length_eq_zero_iff.1 hz
    rw [read_append_of_ok hb, read_append_of_ok hc, read_cons_of_ok (step_rightParen_cons (by rw [within, houter]; rfl)),
      read_cons_of_ok (step_rightParen_cons rfl), read_cons_of_ok (step_rightParen_cons (by rw [within, houter]; rfl)),
      leave_leave_within]

/-! ## Parentheses without an operator inside -/

/-- The yard behind so many further parentheses that open. -/
def enterTimes : Nat → Yard → Yard
  | 0, y => y
  | n + 1, y => (enterTimes n y).enter

theorem enterTimes_write (n : Nat) (y : Yard) (w : Text) : (enterTimes n y).write w = enterTimes n (y.write w) := by
  induction n with
  | zero => rfl
  | succ n ih => exact congrArg enter ih

/-- A parenthesis that closes when nothing waits in it takes back the one that opened. -/
theorem step_rightParen_enter (y : Yard) : y.enter.step .rightParen = ⟨none, y⟩ :=
  step_rightParen_cons rfl

theorem write_write (y : Yard) (v w : Text) : (y.write v).write w = y.write (v ++ w) := by simp [write]

/-- Without operators the literals are written as they come, and the parentheses do nothing. -/
theorem read_enterTimes {depth : Nat} (hops : ∀ op, .operator op ∉ ts) (hnest : nesting? depth ts = some 0) (y : Yard) :
    (enterTimes depth y).read ts = .ok (y.write (literalText ts)) := by
  induction ts generalizing depth y with
  | nil =>
    obtain rfl : depth = 0 := by simpa [nesting?] using hnest
    rfl
  | cons t ts ih =>
    have hops' : ∀ op, .operator op ∉ ts := fun op hop => hops op (by simp [hop])
    cases t with
    | literal w =>
      rw [read_cons_of_ok (step_literal _ w), enterTimes_write, ih hops' hnest, write_write]
      rfl
    | leftParen => exact (read_cons_of_ok (step_leftParen _) ts).trans (ih hops' hnest y)
    | rightParen =>
      cases depth with
      | zero => simp [nesting?] at hnest
      | succ depth =>
        exact (read_cons_of_ok (step_rightParen_enter _) ts).trans (ih hops' (by simpa [nesting?] using hnest) y)
    | operator op => exact absurd (List.mem_cons_self ..) (hops op)

theorem read_group_of_no_operator (hops : ∀ op, .operator op ∉ ts) (hnest : nesting? 0 ts = some 0) (y : Yard)
    (later : List Terminal) : y.read (group ts ++ later) = y.read (ts ++ later) := by
  have houtside : y.read ts = .ok (y.write (literalText ts)) := @read_enterTimes ts 0 hops hnest y
  have hinside : y.enter.read ts = .ok (y.write (literalText ts)).enter := @read_enterTimes ts 0 hops hnest y.enter
  have hgroup : group ts ++ later = .leftParen :: (ts ++ .rightParen :: later) := by simp [group]
  rw [hgroup, read_cons_of_ok (step_leftParen y), read_append_of_ok hinside,
    read_cons_of_ok (step_rightParen_enter _), read_append_of_ok houtside]

/-- Rows that are read alike can be exchanged in what is converted. -/
theorem convert_congr {front us vs back : List Terminal}
    (h : ∀ y : Yard, y.read (us ++ back) = y.read (vs ++ back)) (y : Yard) :
    y.convert (front ++ us ++ back) = y.convert (front ++ vs ++ back) := by
  rw [convert, convert, List.append_assoc, List.append_assoc, read_append y front, read_append y front]
  cases y.read front with
  | error e => rfl
  | ok z => simp only [h z]

/-! ## Parentheses around everything -/

theorem convert_group (hts : ∀ w, .literal w ∈ ts → IsLiteral w) (hnest : nesting? 0 ts = some 0) :
    ({} : Yard).convert (group ts) = ({} : Yard).convert ts := by
  have hgroup : group ts = .leftParen :: (ts ++ [.rightParen]) := rfl
  have hblind : Blind [[]] [] {} := .inr ⟨[], tracks_nil⟩
  have hread : ({} : Yard).read (group ts) = (({} : Yard).within [[]]).read (ts ++ [.rightParen]) :=
    read_cons_of_ok (step_leftParen {}) _
  rw [convert, convert, hread]
  rcases hblind.read hts hnest with ⟨e, hb, hc⟩ | ⟨z, hz, hb, hc⟩
  · rw [within_nil] at hc
    rw [read_append, hb, hc]
  · have houter : z.outer = [] := List.length_eq_zero_iff.1 hz
    rw [within_nil, within_nil] at hc
    rw [read_append_of_ok hb, hc, read_cons_of_ok (step_rightParen_cons (by rw [within, houter]; rfl)), read_nil]
    simp [finish, houter, leave, within, drain, output, written_emitAll]

end Yard

/-- Parentheses around a row with nested parentheses are redundant where they stand around parentheses already, around
terminals without an operator, or around the whole text: the postfix text or the error is the same without them, and
of the whole text also the value. Nothing is asked of what stands before, behind and inside but that parentheses nest
inside. -/
theorem parentheses_redundant {front body back : List Terminal}
    (hlit : ∀ w, .literal w ∈ front ++ body ++ back → IsLiteral w) (hnest : nesting? 0 body = some 0) :
    (∀ s t, Writes (front ++ group (group body) ++ back) s → Writes (front ++ group body ++ back) t →
      toPostfix s = toPostfix t) ∧
    ((∀ op, .operator op ∉ body) → front ++ body ++ back ≠ [] →
      ∀ s t, Writes (front ++ group body ++ back) s → Writes (front ++ body ++ back) t → toPostfix s = toPostfix t) ∧
    ∀ s t, Writes (group body) s → Writes body t → evaluate s = evaluate t := by
  have hbody : ∀ w, .literal w ∈ body → IsLiteral w := fun w hw => hlit w (by simp [hw])
  have hone : ∀ w, .literal w ∈ front ++ group body ++ back → IsLiteral w := fun w hw =>
    hlit w (by simpa [literal_mem_group] using hw)
  have htwo : ∀ w, .literal w ∈ front ++ group (group body) ++ back → IsLiteral w := fun w hw =>
    hlit w (by simpa [literal_mem_group] using hw)
  refine ⟨fun s t hs ht => ?_, fun hops hne s t hs ht => ?_, fun s t hs ht => ?_⟩
  · rw [toPostfix_of_writes hs htwo (by simp [group_ne_nil]), toPostfix_of_writes ht hone (by simp [group_ne_nil])]
    exact Yard.convert_congr (fun y => Yard.read_group_group hbody hnest y back) {}
  · rw [toPostfix_of_writes hs hone (by simp [group_ne_nil]), toPostfix_of_writes ht hlit hne]
    exact Yard.convert_congr (fun y => Yard.read_group_of_no_operator hops hnest y back) {}
  · have hgroup : ∀ w, .literal w ∈ group body → IsLiteral w := fun w hw => hbody w (literal_mem_group.1 hw)
    have hconvert := toPostfix_of_writes hs hgroup (group_ne_nil body)
    rw [Yard.convert_group hbody hnest] at hconvert
    by_cases hnil : body = []
    · -- between the parentheses there is nothing, and what is empty is found out by the other stage
      subst hnil
      cases ht with
      | nil blank =>
        have hempty : evaluate t = .error .emptyExpression := by rw [evaluate, toPostfix, if_pos blank]
        rw [hempty, evaluate, hconvert]
        rfl
    · rw [evaluate, evaluate, hconvert, toPostfix_of_writes ht hbody hnil]

/-- `2+((-3)))` has the error of `2+(-3))`, which names a parenthesis; `(1(2))3-1` has the postfix text of `1(2)3-1`, and
`(1(2))` the value of `1(2)`. -/
theorem parentheses_redundant_malformed :
    toPostfix ['2', '+', '(', '(', '-', '3', ')', ')', ')'] = .error (.adjacentOperators '(' '-') ∧
    toPostfix ['(', '1', '(', '2', ')', ')', '3', '-', '1'] = .ok ['1', '2', '3', ' ', '1', ' ', '-'] ∧
    evaluate ['(', '1', '(', '2', ')', ')'] = .ok ⟨false, 12, 0, by decide, by decide⟩ := by
  obtain ⟨hdouble, -, -⟩ := @parentheses_redundant [.literal ['2'], .operator .add] [.operator .sub, .literal ['3']]
    [.rightParen] (by simp; decide) rfl
  obtain ⟨-, hdiscarded, hall⟩ := @parentheses_redundant [] [.literal ['1'], .leftParen, .literal ['2'], .rightParen]
    [.literal ['3'], .operator .sub, .literal ['1']] (by simp; decide) rfl
  have herror := hdouble _ _ (writes_spelling _) (writes_spelling _)
  have htext := hdiscarded (by simp) (by simp) _ _ (writes_spelling _) (writes_spelling _)
  have hvalue := hall _ _ (writes_spelling _) (writes_spelling _)
  exact ⟨herror.trans rfl, htext.trans rfl, hvalue.trans rfl⟩

end Calculator
