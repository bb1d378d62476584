import Calculator.Proofs.Expression

/-!
# The grammar of infix expressions

The stratified grammar has a tier for each operator and one for what stands alone:

    difference ::= sum      | difference '-' sum
    sum        ::= quotient | sum '+' quotient
    quotient   ::= product  | quotient '/' product
    product    ::= primary  | product '*' primary
    primary    ::= literal  | '(' difference ')'

`Derives` relates a row of terminals to the expression it stands for. Without the tiers the grammar is
ambiguous but has the same sentences (`sentence_iff_derives`).
-/

namespace Calculator

/-! ## Terminals -/

inductive Terminal where
  | operator (op : Operator)
  | leftParen
  | rightParen
  | literal (text : Text)
deriving DecidableEq, Repr

def Terminal.spelling : Terminal → Text
  | operator .sub => ['-']
  | operator .add => ['+']
  | operator .div => ['/']
  | operator .mul => ['*']
  | leftParen => ['(']
  | rightParen => [')']
  | literal text => text

/-- A text that can be a literal: it is not empty and holds no blank, operator or parenthesis. -/
def IsLiteral (w : Text) : Prop :=
  w ≠ [] ∧ ∀ c ∈ w, isBlank c = false ∧ c ∉ ['+', '-', '*', '/', '(', ')']

instance (w : Text) : Decidable (IsLiteral w) :=
  decidable_of_iff (w ≠ [] ∧ w.all (fun c => isBlank c = false ∧ c ∉ ['+', '-', '*', '/', '(', ')']) = true)
    (by simp [IsLiteral])

theorem Terminal.spelling_operator (op : Operator) : (operator op).spelling = [op.symbol] := by
  cases op <;> rfl

theorem IsLiteral.isWord {w : Text} (h : IsLiteral w) : IsWord w := ⟨h.1, fun c hc => (h.2 c hc).1⟩

theorem IsLiteral.ofWord?_eq_none {w : Text} (h : IsLiteral w) : Operator.ofWord? w = none := by
  match w, h with
  | [], _ => rfl
  | [c], h =>
    have hc := (h.2 c (by simp)).2
    simp only [List.mem_cons, List.not_mem_nil, or_false, not_or] at hc
    simp [Operator.ofWord?, Operator.ofSymbol?, hc]
  | _ :: _ :: _, _ => rfl

/-! ## The stratified grammar -/

/-- The nonterminals, from the loosest to the tightest. -/
inductive Tier where
  | difference
  | sum
  | quotient
  | product
  | primary
deriving DecidableEq, Repr

namespace Tier

/-- The operator of a tier and the tier of its right operand; the left one has the tier itself. -/
def rule? : Tier → Option (Operator × Tier)
  | difference => some (.sub, sum)
  | sum => some (.add, quotient)
  | quotient => some (.div, product)
  | product => some (.mul, primary)
  | primary => none

/-- The place of a tier among all, counted from the loosest. -/
def level : Tier → Nat
  | difference => 1
  | sum => 2
  | quotient => 3
  | product => 4
  | primary => 5

theorem level_of_rule {t u : Tier} {op : Operator} (h : t.rule? = some (op, u)) :
    t.level = op.precedence ∧ u.level = op.precedence + 1 := by
  cases t <;> cases h <;> exact ⟨rfl, rfl⟩

end Tier

/-- The terminals stand for the expression, as a phrase of the tier. -/
inductive Derives : Tier → List Terminal → Expression → Prop
  | pass {t u : Tier} {op : Operator} {ts : List Terminal} {e : Expression}
      (rule : t.rule? = some (op, u)) (inner : Derives u ts e) : Derives t ts e
  | binary {t u : Tier} {op : Operator} {ts us : List Terminal} {l r : Expression}
      (rule : t.rule? = some (op, u)) (left : Derives t ts l) (right : Derives u us r) :
      Derives t (ts ++ .operator op :: us) (.binary op l r)
  | literal {w : Text} (h : IsLiteral w) : Derives .primary [.literal w] (.literal w)
  | group {ts : List Terminal} {e : Expression} (inner : Derives .difference ts e) :
      Derives .primary (.leftParen :: ts ++ [.rightParen]) e

namespace Derives

theorem isLiteral_of_mem_leaves {t : Tier} {ts : List Terminal} {e : Expression} (h : Derives t ts e) :
    ∀ w ∈ e.leaves, IsLiteral w := by
  induction h with
  | pass _ _ ih => exact ih
  | binary _ _ _ ihl ihr =>
    intro w hw
    simp only [Expression.leaves, List.mem_append] at hw
    exact hw.elim (ihl w) (ihr w)
  | literal h =>
    intro w hw
    simp only [Expression.leaves, List.mem_singleton] at hw
    exact hw ▸ h
  | group _ ih => exact ih

/-- What stands alone is a phrase of every tier. -/
theorem of_primary {ts : List Terminal} {e : Expression} (h : Derives .primary ts e) (t : Tier) :
    Derives t ts e := by
  have hm : Derives .product ts e := pass rfl h
  have hd : Derives .quotient ts e := pass rfl hm
  have ha : Derives .sum ts e := pass rfl hd
  cases t with
  | difference => exact pass rfl ha
  | sum => exact ha
  | quotient => exact hd
  | product => exact hm
  | primary => exact h

/-- A phrase grows at its right end: an operator that binds at least as tightly as its tier and
something that stands alone make it a longer phrase of the tier. -/
theorem append_primary {t : Tier} {ts : List Terminal} {e : Expression} (h : Derives t ts e)
    {us : List Terminal} {f : Expression} (hp : Derives .primary us f) {op : Operator}
    (hop : t.level ≤ op.precedence) : ∃ g, Derives t (ts ++ .operator op :: us) g := by
  induction h with
  | @pass t u o ts e rule inner ih =>
    obtain ⟨ht, hu⟩ := Tier.level_of_rule rule
    rcases Nat.lt_or_ge t.level op.precedence with hlt | hge
    · obtain ⟨g, hg⟩ := ih (by omega)
      exact ⟨g, pass rule hg⟩
    · obtain rfl : o = op := Operator.precedence_injective (by omega)
      exact ⟨_, binary rule (pass rule inner) (of_primary hp u)⟩
  | @binary t u o ts vs l r rule left right _ ihr =>
    obtain ⟨ht, hu⟩ := Tier.level_of_rule rule
    rcases Nat.lt_or_ge t.level op.precedence with hlt | hge
    · obtain ⟨g, hg⟩ := ihr (by omega)
      have := binary rule left hg
      exact ⟨_, by simpa using this⟩
    · obtain rfl : o = op := Operator.precedence_injective (by omega)
      exact ⟨_, binary rule (binary rule left right) (of_primary hp u)⟩
  | literal _ => cases op <;> simp [Tier.level, Operator.precedence] at hop
  | group _ _ => cases op <;> simp [Tier.level, Operator.precedence] at hop

end Derives

/-! ## The grammar without tiers -/

/-- The sentences of the ambiguous grammar: literals, operators with an operand on both sides and
groups that are not empty. -/
inductive Sentence : List Terminal → Prop
  | literal {w : Text} (h : IsLiteral w) : Sentence [.literal w]
  | binary {ts us : List Terminal} (op : Operator) (left : Sentence ts) (right : Sentence us) :
      Sentence (ts ++ .operator op :: us)
  | group {ts : List Terminal} (inner : Sentence ts) : Sentence (.leftParen :: ts ++ [.rightParen])

theorem Sentence.isLiteral {ts : List Terminal} (h : Sentence ts) : ∀ w, .literal w ∈ ts → IsLiteral w := by
  induction h with
  | literal h => simpa using h
  | binary op _ _ ihl ihr =>
    intro w hw
    simp only [List.mem_append, List.mem_cons, reduceCtorEq, false_or] at hw
    exact hw.elim (ihl w) (ihr w)
  | group _ ih => simpa using ih

theorem Sentence.ne_nil {ts : List Terminal} (h : Sentence ts) : ts ≠ [] := by
  cases h <;> simp

theorem Derives.sentence {t : Tier} {ts : List Terminal} {e : Expression} (h : Derives t ts e) :
    Sentence ts := by
  induction h with
  | pass _ _ ih => exact ih
  | binary _ _ _ ihl ihr => exact .binary _ ihl ihr
  | literal h => exact .literal h
  | group _ ih => exact .group ih

/-- A sentence stands for an expression, alone and as the right operand of a phrase. -/
theorem Sentence.exists_derives {us : List Terminal} (h : Sentence us) :
    (∃ e, Derives .difference us e) ∧
      ∀ {ts : List Terminal} {l : Expression} (op : Operator), Derives .difference ts l →
        ∃ e, Derives .difference (ts ++ .operator op :: us) e := by
  have hlow (op : Operator) : Tier.difference.level ≤ op.precedence := by cases op <;> decide
  induction h with
  | literal h =>
    have hp := Derives.literal h
    exact ⟨⟨_, hp.of_primary _⟩, fun op hl => hl.append_primary hp (hlow op)⟩
  | binary o _ _ ihl ihr =>
    refine ⟨?_, fun op hl => ?_⟩
    · obtain ⟨l, hl⟩ := ihl.1
      exact ihr.2 o hl
    · obtain ⟨m, hm⟩ := ihl.2 op hl
      obtain ⟨e, he⟩ := ihr.2 o hm
      exact ⟨e, by simpa using he⟩
  | group _ ih =>
    obtain ⟨e, he⟩ := ih.1
    have hp := Derives.group he
    exact ⟨⟨_, hp.of_primary _⟩, fun op hl => hl.append_primary hp (hlow op)⟩

theorem sentence_iff_derives {ts : List Terminal} : Sentence ts ↔ ∃ e, Derives .difference ts e :=
  ⟨fun h => h.exists_derives.1, fun ⟨_, h⟩ => h.sentence⟩

end Calculator
