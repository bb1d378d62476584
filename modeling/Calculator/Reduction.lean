import Calculator.Decimal.Numeral
import Calculator.Yard

/-!
# Evaluating postfix text

A postfix text is a row of words. A number goes on top of a stack; an operator replaces the two topmost
values by its result, the upper one being the right operand. The value is the one on top at the end,
whatever lies below it. An infix text is evaluated by way of its postfix text.
-/

namespace Calculator

/-- `parse_operand`. -/
def operand (word : Text) : Except ExpressionError Decimal :=
  match Numeral.ofText? word with
  | none => .error (.invalidNumber word)
  | some n =>
    match n.toDecimal? with
    | none => .error .numericOverflow
    | some d => .ok d

/-! ## The stack -/

/-- `operator_symbol`: the symbol of an operator, if the word is nothing else. -/
def operatorSymbol? : Text → Option Char
  | [c] => if (Operator.ofSymbol? c).isSome then some c else none
  | _ => none

/-- The stack after a symbol. Two values are popped before the symbol is looked up. -/
def reduce (symbol : Char) : List Decimal → Except ExpressionError (List Decimal)
  | right :: left :: below =>
    match Operator.ofSymbol symbol with
    | .error e => .error e
    | .ok op =>
      match op.apply left right with
      | .error e => .error e
      | .ok value => .ok (value :: below)
  | _ => .error .tooManyOperators

/-- The stack after a word, its top first: one round of the loop in `evaluate_postfix`. -/
def takeWord (stack : List Decimal) (word : Text) : Except ExpressionError (List Decimal) :=
  match operatorSymbol? word with
  | some symbol => reduce symbol stack
  | none =>
    match operand word with
    | .error e => .error e
    | .ok value => .ok (value :: stack)

/-- The loop in `evaluate_postfix`; the first error ends it. -/
def takeWords (stack : List Decimal) : List Text → Except ExpressionError (List Decimal)
  | [] => .ok stack
  | word :: later =>
    match takeWord stack word with
    | .error e => .error e
    | .ok next => takeWords next later

/-- The stack that a postfix text leaves. -/
def finalStack (postfixText : Text) : Except ExpressionError (List Decimal) := takeWords [] (words postfixText)

/-- `evaluate_postfix`: the top of the stack that the words leave. -/
def evaluatePostfix (postfixText : Text) : Except ExpressionError Decimal :=
  if isBlankText postfixText then .error .emptyExpression
  else
    match finalStack postfixText with
    | .error e => .error e
    | .ok [] => .error .emptyExpression
    | .ok (top :: _) => .ok top

/-! ## Evaluating infix text -/

/-- `evaluate`, by way of the postfix text. An error of either stage is the result. -/
def evaluate (source : Text) : Except ExpressionError Decimal :=
  match toPostfix source with
  | .error e => .error e
  | .ok postfixText => evaluatePostfix postfixText

end Calculator
