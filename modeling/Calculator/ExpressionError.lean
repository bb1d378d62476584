import Calculator.Text.Blank

/-!
# What can be wrong with an expression

One constructor for each cause, and the sentence that reports it.
-/

namespace Calculator

/-- `CalcError`: why an expression has no value. -/
inductive ExpressionError where
  | emptyExpression
  | adjacentOperators (previous current : Char)
  | missingLeftParenthesis
  | missingRightParenthesis
  | tooManyOperators
  | invalidNumber (atom : Text)
  | unsupportedOperator (symbol : Char)
  | divideByZero
  | numericOverflow
deriving DecidableEq, Repr

def ExpressionError.message : ExpressionError → Text
  | emptyExpression => "Expression is empty.".toList
  | adjacentOperators previous current =>
    "Operators ".toList ++ [previous] ++ " and ".toList ++ [current] ++ " are adjacent.".toList
  | missingLeftParenthesis => "Missing ( parenthesis.".toList
  | missingRightParenthesis => "Missing ) parenthesis.".toList
  | tooManyOperators => "Too many operators.".toList
  | invalidNumber atom => atom ++ " is not a valid number.".toList
  | unsupportedOperator symbol => [symbol] ++ " is an unsupported operator.".toList
  | divideByZero => "Attempted to divide by zero.".toList
  | numericOverflow => "Value was either too large or too small for a Decimal.".toList

end Calculator
