import Calculator.Text.Blank

/-!
# Patterns

A pattern describes texts, and is looked for anywhere inside a text. The search keeps a mark for every
place of the text, from the one in front of the first character to the one behind the last. A pattern
carries the marks of the places where it may begin over to the places where it may then end.
-/

namespace Calculator

/-! ## Sets of characters -/

inductive CharSet where
  | nothing
  | range (low high : Char)
  | either (a b : CharSet)
  | both (a b : CharSet)
  | outside (a : CharSet)
  /-- The characters of a set, whatever the case of ASCII letters. -/
  | anyCase (a : CharSet)
deriving DecidableEq, Repr

namespace CharSet

def holds : CharSet → Char → Bool
  | nothing, _ => false
  | range low high, c => low ≤ c && c ≤ high
  | either a b, c => a.holds c || b.holds c
  | both a b, c => a.holds c && b.holds c
  | outside a, c => !a.holds c
  | anyCase a, c => a.holds c || a.holds c.toLower || a.holds c.toUpper

def ofList (cs : List Char) : CharSet := cs.foldr (fun c a => .either (.range c c) a) .nothing

end CharSet

/-! ## Places -/

/-- A condition on a place of the text. -/
inductive Place where
  | textStart
  | textEnd
  | lineStart
  | lineEnd
  /-- The start of a line that a carriage return may end too. -/
  | carriageStart
  | carriageEnd
  | wordEdge
  | notWordEdge
  | wordStart
  | wordEnd
  /-- No word character stands before the place. -/
  | wordStartHalf
  | wordEndHalf
deriving DecidableEq, Repr

namespace Place

def isWord (c : Char) : Bool := c.isAlphanum || c == '_'

/-- Whether a place meets the condition, by the characters before and after it. -/
def isMet (before after : Option Char) : Place → Bool
  | textStart => before.isNone
  | textEnd => after.isNone
  | lineStart => before.all (· == '\n')
  | lineEnd => after.all (· == '\n')
  | carriageStart => before.all fun c => c == '\n' || (c == '\r' && after != some '\n')
  | carriageEnd => after.all fun c => c == '\r' || (c == '\n' && before != some '\r')
  | wordEdge => before.any isWord != after.any isWord
  | notWordEdge => before.any isWord == after.any isWord
  | wordStart => !before.any isWord && after.any isWord
  | wordEnd => before.any isWord && !after.any isWord
  | wordStartHalf => !before.any isWord
  | wordEndHalf => !after.any isWord

/-- Whether the places of a text meet the condition, for a text behind the given character. -/
def marksFrom (before : Option Char) (p : Place) : Text → List Bool
  | [] => [p.isMet before none]
  | c :: rest => p.isMet before (some c) :: marksFrom (some c) p rest

end Place

/-! ## Patterns -/

inductive Pattern where
  | empty
  | one (set : CharSet)
  | place (p : Place)
  | followedBy (a b : Pattern)
  | either (a b : Pattern)
  /-- Repeated at least some times, and at most some times if there is a bound. -/
  | repeated (a : Pattern) (least : Nat) (most : Option Nat)
deriving DecidableEq, Repr

namespace Pattern

def again (step : List Bool → List Bool) : Nat → List Bool → List Bool
  | 0, marks => marks
  | times + 1, marks => again step times (step marks)

/-- Adds the marks that a step leads to, up to a number of times or until it adds no more. -/
def spread (step : List Bool → List Bool) : Nat → List Bool → List Bool
  | 0, marks => marks
  | times + 1, marks =>
    let wider := List.zipWith (· || ·) marks (step marks)
    if wider = marks then marks else spread step times wider

/-- The places where the pattern may end if it begins at one of the marks. More repetitions than the text
has places lead nowhere new. -/
def carry (text : Text) : Pattern → List Bool → List Bool
  | empty, marks => marks
  | one set, marks => false :: List.zipWith (fun mark c => mark && set.holds c) marks text
  | place p, marks => List.zipWith (· && ·) marks (p.marksFrom none text)
  | followedBy a b, marks => carry text b (carry text a marks)
  | either a b, marks => List.zipWith (· || ·) (carry text a marks) (carry text b marks)
  | repeated a least most, marks =>
    let places := text.length + 1
    spread (carry text a) (match most with | none => places | some n => min (n - least) places)
      (again (carry text a) (min least places) marks)

def isFoundIn (p : Pattern) (text : Text) : Bool :=
  (p.carry text (List.replicate (text.length + 1) true)).any id

/-- The patterns of a list, one behind the other. -/
def row : List Pattern → Pattern
  | [] => empty
  | [p] => p
  | p :: later => followedBy p (row later)

/-- One of the patterns of a list and another one. -/
def choice (p : Pattern) : List Pattern → Pattern
  | [] => p
  | q :: later => either p (choice q later)

end Pattern

end Calculator
