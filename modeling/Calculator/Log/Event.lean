import Calculator.Decimal.Numeral
import Calculator.Text.Hidden
import Calculator.Token

/-!
# Records

The calculator reports its steps as events. Each event has a level, a target that names the part of
the calculator it comes from, and a message.
-/

namespace Calculator

/-- How important a record is, the most important first. -/
inductive Level where
  | error
  | warn
  | info
  | debug
  | trace
deriving DecidableEq, Repr

def Level.detail : Level → Nat
  | error => 1
  | warn => 2
  | info => 3
  | debug => 4
  | trace => 5

def Level.text : Level → Text
  | error => "ERROR".toList
  | warn => "WARN".toList
  | info => "INFO".toList
  | debug => "DEBUG".toList
  | trace => "TRACE".toList

structure Record where
  level : Level
  target : Text
  message : Text
deriving DecidableEq, Repr

inductive Event where
  /-- A token was read. -/
  | lexed (t : Token)
  /-- A parenthesis was put on the stack. -/
  | opened (here : Location)
  /-- An operator was put on the stack. -/
  | pushed (op : Operator)
  /-- An operator was written. -/
  | emitted (op : Operator)
  /-- An infix text was turned into a postfix text. -/
  | converted (source postfixText : Text)
  /-- An operator was applied. -/
  | applied (left : Decimal) (op : Operator) (right value : Decimal)
  /-- Values lay below the result. -/
  | leftover (count : Nat) (postfixText : Text)
  /-- A batch came to its end. -/
  | batchEnded (evaluated failed : Nat)
  /-- A session came to its end. -/
  | sessionEnded (evaluated failed : Nat)
  /-- The history file could not be read. -/
  | historyMissing (path reason : Text)
deriving DecidableEq, Repr

namespace Event

def countsText (evaluated failed : Nat) : Text :=
  countText evaluated ++ " expression(s), ".toList ++ countText failed ++ " invalid".toList

def level : Event → Level
  | lexed _ | opened _ | pushed _ | emitted _ | applied .. => .trace
  | converted .. | leftover .. | historyMissing .. => .debug
  | batchEnded .. | sessionEnded .. => .info

/-- The part of the calculator that reports an event. -/
def target : Event → Text
  | lexed _ => "infix_lexer::lexer".toList
  | opened _ | pushed _ | emitted _ | converted .. => "infix_eval::postfix".toList
  | applied .. | leftover .. => "infix_eval::evaluator".toList
  | batchEnded .. | sessionEnded .. | historyMissing .. => "infix".toList

/-- What is said of an event. -/
def message : Event → Text
  | lexed t => "lexed ".toList ++ t.kind.text ++ [' '] ++ quoted t.lexeme ++ " at ".toList ++ t.location.text
  | opened here => "push ( at ".toList ++ here.text
  | pushed op => "push ".toList ++ [op.symbol]
  | emitted op => "emit ".toList ++ [op.symbol]
  | converted source postfixText =>
    "to_postfix(".toList ++ quoted source ++ ") = ".toList ++ quoted postfixText
  | applied left op right value =>
    left.text ++ [' ', op.symbol, ' '] ++ right.text ++ " = ".toList ++ value.text
  | leftover count postfixText =>
    countText count ++ " operand(s) left unreduced in ".toList ++ quoted postfixText ++
      ", returning the top".toList
  | batchEnded evaluated failed => "evaluated ".toList ++ countsText evaluated failed
  | sessionEnded evaluated failed => "session ended: ".toList ++ countsText evaluated failed
  | historyMissing path reason => "no history loaded from '".toList ++ path ++ "': ".toList ++ reason

def record (e : Event) : Record := ⟨e.level, e.target, e.message⟩

end Event

end Calculator
