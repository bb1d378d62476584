import Calculator.Log.Event
import Calculator.Reduction

/-!
# The events of an evaluation

What happens inside the yard and on the stack of values, step by step and in order.
-/

namespace Calculator

/-! ## Conversion -/

/-- What `ShuntingYard::push_token` reports of a token. -/
def Yard.events (y : Yard) (t : Token) : List Event :=
  match t.kind with
  | .operator op =>
    match y.adjacency? op with
    | some _ => []
    | none => (y.due op).map .emitted ++ [.pushed op]
  | .leftParen => [.opened t.location]
  | .rightParen => y.level.map .emitted
  | .literal => []

/-- What is reported of tokens that are read and fed, up to the first error, and of the end. -/
def Yard.allEvents (y : Yard) (source : Text) : List Token → List Event
  | [] =>
    y.level.map .emitted ++
      match y.finish with
      | .ok postfixText => [.converted source postfixText]
      | .error _ => []
  | t :: later =>
    .lexed t :: (y.events t ++
      match y.feed t with
      | ⟨some _, _⟩ => []
      | ⟨none, next⟩ => next.allEvents source later)

/-- The events of `toPostfix`. -/
def conversionEvents (source : Text) : List Event :=
  if isBlankText source then [] else ({} : Yard).allEvents source (tokens source)

/-! ## Evaluation -/

/-- What is reported of a word, with the stacks before and after it. -/
def wordEvents (word : Text) (stack next : List Decimal) : List Event :=
  match Operator.ofWord? word, stack, next with
  | some op, right :: left :: _, value :: _ => [.applied left op right value]
  | _, _, _ => []

def wordsEvents (stack : List Decimal) : List Text → List Event
  | [] => []
  | word :: later =>
    match takeWord stack word with
    | .error _ => []
    | .ok next => wordEvents word stack next ++ wordsEvents next later

/-- The events of `evaluatePostfix`. -/
def reductionEvents (postfixText : Text) : List Event :=
  wordsEvents [] (words postfixText) ++
    match finalStack postfixText with
    | .ok (_ :: below) => if below = [] then [] else [.leftover below.length postfixText]
    | _ => []

/-- The events of `evaluate`. -/
def evaluationEvents (source : Text) : List Event :=
  conversionEvents source ++
    match toPostfix source with
    | .ok postfixText => reductionEvents postfixText
    | .error _ => []

end Calculator
