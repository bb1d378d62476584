import Calculator.Text.Hidden
import Calculator.Token

/-!
# The shunting yard

One scan over the tokens turns an infix expression into postfix text. A literal is written at once.
An operator waits until one comes that binds no tighter, or until the parenthesis around it closes.
The waiting operators form a stack, kept here as one list for each open parenthesis.

A blank is written when an operator starts to wait and another in front of each operator that is
written. So the text ends with a blank exactly while the latest operator waits and nothing has been
written since, provided that no literal ends with a blank.

The tokens of an infix text go through an empty yard one by one; the first error ends the scan.
-/

namespace Calculator

/-- `ShuntingYard`: the operators that wait and the text written so far. -/
structure Yard where
  /-- The operators that wait in the innermost open parenthesis, the latest first. -/
  level : List Operator := []
  /-- The operators that wait in each level around it, the nearest level first. -/
  outer : List (List Operator) := []
  /-- The text written so far, its last character first. -/
  written : Text := []
deriving DecidableEq, Repr

namespace Yard

/-! ## The text -/

def output (y : Yard) : Text := y.written.reverse

/-- Writes a literal as it stands. -/
def write (y : Yard) (literal : Text) : Yard := { y with written := literal.reverse ++ y.written }

/-- `ShuntingYard::emit`. -/
def emit (y : Yard) (op : Operator) : Yard := { y with written := op.symbol :: ' ' :: y.written }

def emitAll (y : Yard) (ops : List Operator) : Yard := ops.foldl emit y

@[simp] theorem output_write (y : Yard) (literal : Text) : (y.write literal).output = y.output ++ literal := by
  simp [output, write]

@[simp] theorem output_emit (y : Yard) (op : Operator) : (y.emit op).output = y.output ++ [' ', op.symbol] := by
  simp [output, emit]

@[simp] theorem output_emitAll (y : Yard) (ops : List Operator) :
    (y.emitAll ops).output = y.output ++ ops.flatMap fun op => [' ', op.symbol] := by
  induction ops generalizing y with
  | nil => simp [emitAll]
  | cons op ops ih => simpa [emitAll] using ih (y.emit op)

@[simp] theorem level_emitAll (y : Yard) (ops : List Operator) : (y.emitAll ops).level = y.level := by
  induction ops generalizing y with
  | nil => rfl
  | cons op ops ih => exact ih (y.emit op)

@[simp] theorem outer_emitAll (y : Yard) (ops : List Operator) : (y.emitAll ops).outer = y.outer := by
  induction ops generalizing y with
  | nil => rfl
  | cons op ops ih => exact ih (y.emit op)

/-! ## The stack -/

/-- `Pending`: an operator that waits or a parenthesis that is open. -/
inductive Entry where
  | operator (op : Operator)
  | leftParen
deriving DecidableEq, Repr

def Entry.symbol : Entry → Char
  | .operator op => op.symbol
  | .leftParen => '('

def entries (level : List Operator) : List Entry := level.map .operator

/-- The whole stack, the topmost entry first. -/
def stack (y : Yard) : List Entry :=
  entries y.level ++ y.outer.flatMap fun level => .leftParen :: entries level

def endsBlank (y : Yard) : Bool := y.written.head? == some ' '

/-- The check of `ShuntingYard::push_operator`: the text ends with a blank and the stack is not empty. The
error names the top of the stack as the previous symbol. -/
def adjacency? (y : Yard) (op : Operator) : Option ExpressionError :=
  if y.endsBlank then y.stack.head?.map fun top => .adjacentOperators top.symbol op.symbol else none

/-- The operators that leave before `op` may wait: those of its level that bind at least as tightly,
as far as they lie on top. -/
def due (y : Yard) (op : Operator) : List Operator := y.level.takeWhile (op.precedence ≤ ·.precedence)

/-- The rest of `ShuntingYard::push_operator`: writes the operators that are due, and lets `op` wait. -/
def place (y : Yard) (op : Operator) : Yard :=
  { level := op :: y.level.dropWhile (op.precedence ≤ ·.precedence)
    outer := y.outer
    written := ' ' :: (y.emitAll (y.due op)).written }

/-- Writes every operator of the innermost level: `ShuntingYard::close_paren` up to the parenthesis. -/
def drain (y : Yard) : Yard := { y.emitAll y.level with level := [] }

theorem endsBlank_iff (y : Yard) : y.endsBlank = true ↔ y.output.getLast? = some ' ' := by
  simp [endsBlank, output]

theorem output_place (y : Yard) (op : Operator) :
    (y.place op).output = y.output ++ ((y.due op).flatMap fun op => [' ', op.symbol]) ++ [' '] := by
  rw [← output_emitAll]
  simp [output, place]

theorem output_drain (y : Yard) : y.drain.output = y.output ++ y.level.flatMap fun op => [' ', op.symbol] :=
  output_emitAll y y.level

/-! ## Feeding tokens -/

/-- What feeding a token comes to: the error, if there is one, and the yard that is left. -/
structure Fed where
  error? : Option ExpressionError
  yard : Yard
deriving DecidableEq, Repr

/-- `ShuntingYard::push_token`. A parenthesis that closes none drains the yard all the same; an operator
that cannot be placed changes nothing. -/
def feed (y : Yard) (t : Token) : Fed :=
  match t.kind with
  | .operator op =>
    match y.adjacency? op with
    | some e => ⟨some e, y⟩
    | none => ⟨none, y.place op⟩
  | .leftParen => ⟨none, { y with level := [], outer := y.level :: y.outer }⟩
  | .rightParen =>
    match y.outer with
    | [] => ⟨some .missingLeftParenthesis, y.drain⟩
    | level :: outer => ⟨none, { y.drain with level := level, outer := outer }⟩
  | .literal => ⟨none, y.write t.lexeme⟩

/-- The loop of `to_postfix`; the first error ends it. -/
def feedAll (y : Yard) : List Token → Except ExpressionError Yard
  | [] => .ok y
  | t :: later =>
    match y.feed t with
    | ⟨some e, _⟩ => .error e
    | ⟨none, next⟩ => next.feedAll later

/-- `ShuntingYard::finish`. -/
def finish (y : Yard) : Except ExpressionError Text :=
  match y.outer with
  | [] => .ok y.drain.output
  | _ :: _ => .error .missingRightParenthesis

/-! ## Showing a yard -/

def Entry.name : Entry → Text
  | .operator .sub => "Operator(Sub)".toList
  | .operator .add => "Operator(Add)".toList
  | .operator .div => "Operator(Div)".toList
  | .operator .mul => "Operator(Mul)".toList
  | .leftParen => "LeftParen".toList

/-- The stack from bottom to top and the text, on one line. -/
def describe (y : Yard) : Text :=
  "ShuntingYard \x7b stack: [".toList ++ (", ".toList).intercalate (y.stack.reverse.map Entry.name) ++
    "], output: ".toList ++ quoted y.output ++ " \x7d".toList

end Yard

/-! ## From infix to postfix -/

/-- `to_postfix`. -/
def toPostfix (source : Text) : Except ExpressionError Text :=
  if isBlankText source then .error .emptyExpression
  else
    match ({} : Yard).feedAll (tokens source) with
    | .error e => .error e
    | .ok y => y.finish

end Calculator
