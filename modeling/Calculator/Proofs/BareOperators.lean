import Calculator.Proofs.Leftover
import Calculator.Proofs.Parentheses

/-!
# Operators at the inside of a parenthesis

An operator right in front of a parenthesis that closes has no right operand, and one right behind a parenthesis that
opens has no left operand inside. Nothing looks for either, but an operand is missing from there on, and the stack
machine runs out of values (`Yard.Lacks.read`, `evaluate_refuses_bare`). The yard discards parentheses, though, so that
a literal in front of the one that opens serves as the left operand: `3(-5)` is read as `(3-5)`
(`toPostfix_literal_leftParen`).
-/

namespace Calculator

open Token

/-- An operator stands right behind a parenthesis that opens, or right in front of one that closes. -/
inductive TouchesParen : List Terminal → Prop
  | behindOpening {front back : List Terminal} (op : Operator) :
      TouchesParen (front ++ .leftParen :: .operator op :: back)
  | beforeClosing {front back : List Terminal} (op : Operator) :
      TouchesParen (front ++ .operator op :: .rightParen :: back)

/-- An operator touches the inside of a parenthesis, and no operand is there for it: what stands in front of one that
opens, parentheses apart, is no literal. -/
inductive Bare : List Terminal → Prop
  | behindOpening {front back : List Terminal} (op : Operator) (lacking : literalNext front.reverse = false) :
      Bare (front ++ .leftParen :: .operator op :: back)
  | beforeClosing {front back : List Terminal} (op : Operator) :
      Bare (front ++ .operator op :: .rightParen :: back)

namespace Yard

variable {y z : Yard} {op : Operator} {missing : Nat} {front later : List Terminal}

/-! ## Where an operand goes missing -/

/-- An operator that comes where an operand is due lacks its left one. -/
theorem Lacks.place (h : Lacks missing y) (hf : y.Fresh) (op : Operator) : Lacks (missing + 1) (y.place op) := by
  obtain ⟨hoperands, hoperators⟩ := y.counts_place op
  have hfresh := h.fresh hf
  exact ⟨fun _ => by omega, by omega⟩

/-- Of the operators in a group that closes where an operand is due, the latest lacks its right one. -/
theorem Lacks.leave (h : Lacks missing y) (hf : y.Fresh) (hlevel : y.level ≠ []) {level : List Operator}
    {outer : List (List Operator)} (inside : y.outer = level :: outer) :
    Lacks (missing + 1) (y.leave level outer) := by
  obtain ⟨hoperands, hoperators⟩ := counts_leave inside
  have hfresh := h.fresh hf
  exact ⟨fun hz => absurd hz (endsSymbol_leave hlevel level outer).not_fresh, by omega⟩

/-- A terminal other than a literal supplies no operand. -/
theorem Lacks.moves_of_not_literal (h : Lacks missing y) (hend : y.Ended) {t : Terminal} (hmove : y.Moves t z)
    (ht : t.isLiteral = false) : Lacks missing z := by
  refine h.moves hend hmove ?_ (by simp [ht])
  rintro w rfl
  cases ht

/-- What is read first has at most one operand more than operators. -/
theorem lacks_of_read (hg : gluesLiteral (front ++ later) = false) (hts : ∀ w, .literal w ∈ front → IsLiteral w)
    (hread : ({} : Yard).read front = .ok y) : Lacks 0 y ∧ y.Ended ∧ Unglued y later :=
  lacks_start.read (.inl (.inl rfl)) (unglued_start_iff.2 hg) hts hread

/-- Where no literal stands in front, parentheses apart, an operand is due, or one is missing already. -/
theorem fresh_or_lacks (hfront : literalNext front.reverse = false) (hg : gluesLiteral (front ++ later) = false)
    (hts : ∀ w, .literal w ∈ front → IsLiteral w) (hread : ({} : Yard).read front = .ok y) :
    y.Fresh ∨ Lacks 1 y := by
  induction front using List.reverseRecOn generalizing y later with
  | nil =>
    cases hread
    exact .inl (.inl rfl)
  | append_singleton front t ih =>
    have hts' : ∀ w, .literal w ∈ front → IsLiteral w := fun w hw => hts w (by simp [hw])
    rw [List.append_assoc] at hg
    rw [List.reverse_append] at hfront
    obtain ⟨x, hx, hlast⟩ := read_append_eq_ok hread
    obtain ⟨_, hmove, ⟨⟩⟩ := read_cons_eq_ok hlast
    obtain ⟨hnone, hend, -⟩ := lacks_of_read hg hts' hx
    cases hmove with
    | literal w => cases hfront
    | leftParen => exact (ih hfront hg hts' hx).imp id fun h => h.moves_of_not_literal hend .leftParen rfl
    | @rightParen level outer inside =>
      rcases ih hfront hg hts' hx with hf | h
      · by_cases hlevel : x.level = []
        · left
          rwa [Fresh, output_leave_of_nil hlevel]
        · -- the parentheses in front go back to an operator of this group, which gets no right operand any more
          exact .inr (hnone.leave hf hlevel inside)
      · exact .inr (h.moves_of_not_literal hend (.rightParen inside) rfl)
    | @operator op free => exact .inl (fresh_place x op)

/-- Right behind a parenthesis that opens, an operator lacks its left operand, or another one is missing already. -/
theorem lacks_behindOpening (hfront : literalNext front.reverse = false)
    (hg : gluesLiteral (front ++ .leftParen :: .operator op :: later) = false)
    (hts : ∀ w, .literal w ∈ front → IsLiteral w)
    (hread : ({} : Yard).read (front ++ [.leftParen, .operator op]) = .ok y) : Lacks 1 y := by
  obtain ⟨x, hx, hlast⟩ := read_append_eq_ok hread
  obtain ⟨x', hopen, hlast⟩ := read_cons_eq_ok hlast
  obtain ⟨_, hplace, ⟨⟩⟩ := read_cons_eq_ok hlast
  obtain ⟨hnone, hend, -⟩ := lacks_of_read hg hts hx
  cases hopen
  cases hplace with
  | operator free =>
    have hnone' : Lacks 0 x.enter := hnone.moves_of_not_literal hend .leftParen rfl
    rcases fresh_or_lacks hfront hg hts hx with hf | h
    · exact hnone'.place hf op
    · have hone : Lacks 1 x.enter := h.moves_of_not_literal hend .leftParen rfl
      exact hone.moves_of_not_literal hend (.operator free) rfl

/-- Right in front of a parenthesis that closes, an operator lacks its right operand. -/
theorem lacks_beforeClosing (hg : gluesLiteral (front ++ .operator op :: .rightParen :: later) = false)
    (hts : ∀ w, .literal w ∈ front → IsLiteral w)
    (hread : ({} : Yard).read (front ++ [.operator op, .rightParen]) = .ok y) : Lacks 1 y := by
  obtain ⟨x, hx, hlast⟩ := read_append_eq_ok hread
  obtain ⟨x', hplace, hlast⟩ := read_cons_eq_ok hlast
  obtain ⟨_, hclose, ⟨⟩⟩ := read_cons_eq_ok hlast
  obtain ⟨hnone, hend, -⟩ := lacks_of_read hg hts hx
  cases hplace with
  | operator free =>
    have hnone' : Lacks 0 (x.place op) := hnone.moves_of_not_literal hend (.operator free) rfl
    cases hclose with
    | rightParen inside => exact hnone'.leave (fresh_place x op) (List.cons_ne_nil _ _) inside

/-- An operand that is missing behind the terminals in front is missing behind all of them. -/
theorem Lacks.read_later {front later : List Terminal} (h : Lacks missing y)
    (hg : gluesLiteral (front ++ later) = false) (hts : ∀ w, .literal w ∈ front ++ later → IsLiteral w)
    (hfront : ({} : Yard).read front = .ok y) (hlater : y.read later = .ok z) : Lacks missing z := by
  obtain ⟨-, hend, hunglued⟩ := lacks_of_read hg (fun w hw => hts w (by simp [hw])) hfront
  rw [← later.append_nil] at hunglued
  exact (h.read hend hunglued (fun w hw => hts w (by simp [hw])) hlater).1

theorem lacks_of_bare {ts : List Terminal} (h : Bare ts) (hg : gluesLiteral ts = false)
    (hts : ∀ w, .literal w ∈ ts → IsLiteral w) (hread : ({} : Yard).read ts = .ok z) : Lacks 1 z := by
  cases h with
  | @behindOpening front back op lacking =>
    have hsplit : front ++ .leftParen :: .operator op :: back =
        (front ++ [.leftParen, .operator op]) ++ back := by simp
    obtain ⟨y, hy, hback⟩ := read_append_eq_ok (hsplit ▸ hread)
    have hone : Lacks 1 y := lacks_behindOpening lacking hg (fun w hw => hts w (by simp [hw])) hy
    rw [hsplit] at hg hts
    exact hone.read_later hg hts hy hback
  | @beforeClosing front back op =>
    have hsplit : front ++ .operator op :: .rightParen :: back =
        (front ++ [.operator op, .rightParen]) ++ back := by simp
    obtain ⟨y, hy, hback⟩ := read_append_eq_ok (hsplit ▸ hread)
    have hone : Lacks 1 y := lacks_beforeClosing hg (fun w hw => hts w (by simp [hw])) hy
    rw [hsplit] at hg hts
    exact hone.read_later hg hts hy hback

end Yard

/-! ## Texts -/

/-- A literal in front of a parenthesis that opens might as well stand behind it. -/
theorem toPostfix_literal_leftParen {front back : List Terminal} {w : Text} {s t : Text}
    (hlit : ∀ v, .literal v ∈ front ++ .literal w :: back → IsLiteral v)
    (hs : Writes (front ++ .literal w :: .leftParen :: back) s)
    (ht : Writes (front ++ .leftParen :: .literal w :: back) t) : toPostfix s = toPostfix t := by
  have hout : ∀ v, .literal v ∈ front ++ .literal w :: .leftParen :: back → IsLiteral v := by simpa using hlit
  have hin : ∀ v, .literal v ∈ front ++ .leftParen :: .literal w :: back → IsLiteral v := by simpa using hlit
  rw [toPostfix_of_writes hs hout (by simp), toPostfix_of_writes ht hin (by simp)]
  have hswap : ∀ y : Yard, y.read ([.literal w, .leftParen] ++ back) = y.read ([.leftParen, .literal w] ++ back) :=
    fun _ => rfl
  simpa using @Yard.convert_congr front _ _ back hswap {}

/-- Where no literal is glued to an operator, a text with an operator at the inside of a parenthesis that has no
operand on this side has no value. -/
theorem evaluate_refuses_bare {source : Text} (hg : gluesLiteral (terminals source) = false)
    (h : Bare (terminals source)) : ∃ e, evaluate source = .error e := by
  cases hv : evaluate source with
  | error e => exact ⟨e, rfl⟩
  | ok v =>
    obtain ⟨text, htext, hvalue⟩ := exists_toPostfix_of_evaluate hv
    obtain ⟨z, hz, hfinish⟩ := exists_read_of_toPostfix htext
    obtain ⟨-, hoperands, hoperators⟩ := Yard.finish_counts hfinish
    obtain ⟨below, -, hlength⟩ := exists_finalStack hvalue
    have hle := (Yard.lacks_of_bare h hg (isLiteral_of_mem_terminals source) hz).le
    omega

/-- The conversion finds nothing wrong with `((*2)-1)` and with `(3+)*2`. -/
theorem evaluate_refuses_bare_converted :
    (toPostfix ['(', '(', '*', '2', ')', '-', '1', ')'] = .ok [' ', '2', ' ', '*', ' ', '1', ' ', '-'] ∧
      ∃ e, evaluate ['(', '(', '*', '2', ')', '-', '1', ')'] = .error e) ∧
    toPostfix ['(', '3', '+', ')', '*', '2'] = .ok ['3', ' ', ' ', '+', ' ', '2', ' ', '*'] ∧
      ∃ e, evaluate ['(', '3', '+', ')', '*', '2'] = .error e := by
  have hopening : Bare (terminals ['(', '(', '*', '2', ')', '-', '1', ')']) :=
    @Bare.behindOpening [.leftParen] [.literal ['2'], .rightParen, .operator .sub, .literal ['1'], .rightParen] .mul rfl
  have hclosing : Bare (terminals ['(', '3', '+', ')', '*', '2']) :=
    @Bare.beforeClosing [.leftParen, .literal ['3']] [.operator .mul, .literal ['2']] .add
  exact ⟨⟨rfl, evaluate_refuses_bare (by decide) hopening⟩, rfl, evaluate_refuses_bare (by decide) hclosing⟩

/-- `3(-5)` has the value -2: the 3 is the left operand. -/
theorem bare_behind_literal :
    ¬ ∀ source, TouchesParen (terminals source) → ∃ e, evaluate source = .error e := by
  intro h
  have hv : evaluate ['3', '(', '-', '5', ')'] = .ok ⟨true, 2, 0, by decide, by decide⟩ := rfl
  have htouches : TouchesParen (terminals ['3', '(', '-', '5', ')']) :=
    @TouchesParen.behindOpening [.literal ['3']] [.literal ['5'], .rightParen] .sub
  obtain ⟨e, he⟩ := h _ htouches
  cases he.symm.trans hv

end Calculator
