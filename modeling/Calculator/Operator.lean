import Calculator.Decimal.Arithmetic
import Calculator.Decimal.Quotient
import Calculator.ExpressionError

/-!
# The four operators

Each operator binds at a level of its own, `-` loosest and `*` tightest; operators of one level
associate to the left. Applied to two decimals an operator has a result, or there is an error that says why
it has none.
-/

namespace Calculator

inductive Operator where
  | sub
  | add
  | div
  | mul
deriving DecidableEq, Repr

namespace Operator

/-- A larger number binds tighter. -/
def precedence : Operator → Nat
  | sub => 1
  | add => 2
  | div => 3
  | mul => 4

def symbol : Operator → Char
  | sub => '-'
  | add => '+'
  | div => '/'
  | mul => '*'

/-- `Operator::from_symbol`. -/
def ofSymbol? (c : Char) : Option Operator :=
  if c = '-' then some sub
  else if c = '+' then some add
  else if c = '/' then some div
  else if c = '*' then some mul
  else none

/-- `Operator::try_from`. -/
def ofSymbol (c : Char) : Except ExpressionError Operator :=
  match ofSymbol? c with
  | some op => .ok op
  | none => .error (.unsupportedOperator c)

/-- The operator of a word that is its symbol and nothing else. -/
def ofWord? : Text → Option Operator
  | [c] => ofSymbol? c
  | _ => none

@[simp] theorem ofSymbol?_symbol (op : Operator) : ofSymbol? op.symbol = some op := by cases op <;> rfl

@[simp] theorem ofSymbol_symbol (op : Operator) : ofSymbol op.symbol = .ok op := by
  rw [ofSymbol, ofSymbol?_symbol]

theorem ofSymbol?_eq_some_iff {c : Char} {op : Operator} : ofSymbol? c = some op ↔ c = op.symbol := by
  constructor
  · intro h
    grind [ofSymbol?, Operator.symbol]
  · rintro rfl
    exact ofSymbol?_symbol op

theorem precedence_injective {a b : Operator} (h : a.precedence = b.precedence) : a = b := by
  cases a <;> cases b <;> simp_all [precedence]

/-! ## Applying an operator -/

/-- `Operator::apply`, the left operand first. -/
def apply (op : Operator) (a b : Decimal) : Except ExpressionError Decimal :=
  if op = div ∧ b.isZero then .error .divideByZero
  else
    let result := match op with
      | sub => a.sub b
      | add => a.add b
      | div => a.div b
      | mul => a.mul b
    match result with
    | some d => .ok d
    | none => .error .numericOverflow

end Operator

end Calculator
