import Calculator.Reduction

/-!
# Sessions and batches

A session evaluates one line after the other and counts the lines and those without a value. The word
`exit`, in capitals or not, ends it and counts as nothing. In a batch every line of a text that is not
blank is an expression of its own.
-/

namespace Calculator

/-- `render`: a result as it is shown. -/
def render : Except ExpressionError Decimal → Text
  | .ok value => "=> ".toList ++ value.text
  | .error e => "=> Invalid expression: ".toList ++ e.message

/-- A line without a value. -/
def isInvalid (line : Text) : Bool := !(evaluate line).isOk

/-- `ReplSession`: how many lines were evaluated, and how many of them had no value. -/
structure Session where
  evaluated : Nat := 0
  failed : Nat := 0
deriving DecidableEq, Repr

namespace Session

/-- What a line is answered with, and whether it ends the session. -/
structure Reply where
  out : List Text
  ends : Bool
deriving DecidableEq, Repr

/-- The line is the word `exit`, whatever the case of its letters. -/
def isExit (line : Text) : Bool := line.map Char.toLower == "exit".toList

/-- What `ReplSession::handle_line` returns: the result and an empty line. -/
def reply (line : Text) : Reply := if isExit line then ⟨[], true⟩ else ⟨[render (evaluate line), []], false⟩

/-- What `ReplSession::handle_line` makes of the counts. -/
def count (s : Session) (line : Text) : Session :=
  if isExit line then s
  else if isInvalid line then ⟨s.evaluated + 1, s.failed + 1⟩
  else ⟨s.evaluated + 1, s.failed⟩

end Session

/-! ## Batches -/

def expressions (source : Text) : List Text := (lines source).filter (!isBlankText ·)

/-- The results as they are shown, and how many expressions had no value. -/
structure Batch where
  out : List Text
  failed : Nat
deriving DecidableEq, Repr

/-- `eval_lines`. -/
def Batch.ofText (source : Text) : Batch :=
  ⟨(expressions source).map (render ∘ evaluate), (expressions source).countP isInvalid⟩

end Calculator
