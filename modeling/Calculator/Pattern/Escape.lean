import Calculator.Pattern.Basic
import Calculator.Pattern.Cursor

/-!
# Escapes

What a backslash and the characters behind it stand for.
-/

namespace Calculator

/-- What stands in a pattern for a character, a set of characters or a condition. -/
inductive Primitive where
  /-- A character; `asByte` if it is written by two hexadecimal digits. -/
  | literal (c : Char) (asByte : Bool)
  /-- A set with a short name: digits, spaces, word characters, or all others. -/
  | shorthand (name : Char)
  /-- The characters with a named property. -/
  | property (name : Text)
  | place (p : Place)
deriving DecidableEq, Repr

namespace Primitive

open Cursor PatternFault.Kind

/-! ## Characters by number -/

def hexDigit? (c : Char) : Option Nat :=
  if c.isDigit then some (c.toNat - '0'.toNat)
  else if 'a' ≤ c.toLower ∧ c.toLower ≤ 'f' then some (c.toLower.toNat - 'a'.toNat + 10)
  else none

def hexChar? (digits : Text) : Option Char :=
  let n := digits.foldl (fun n d => 16 * n + (hexDigit? d).getD 0) 0
  if n.isValidChar then some (Char.ofNat n) else none

def hexDigits : Nat → Cursor → Except PatternFault (Text × Cursor)
  | 0, c => .ok ([], c)
  | n + 1, c =>
    match c.rest with
    | [] => refuse escapeUnfinished c.here
    | d :: _ =>
      if (hexDigit? d).isNone then refuse hexDigitInvalid c.ahead
      else do
        let (more, last) ← hexDigits n c.next
        return (d :: more, last)

/-- The hexadecimal digits between braces, with the cursor at the first brace. -/
def bracedDigits (c : Cursor) : Except PatternFault (Text × Cursor) :=
  let (digits, close) := c.next.takeWhile fun d => (hexDigit? d).isSome
  if close.rest = [] then refuse escapeUnfinished (close.since c.behind)
  else if close.rest.head? ≠ some '}' then refuse hexDigitInvalid close.ahead
  else if digits = [] then refuse hexEmpty (close.next.since c.behind)
  else
    match hexChar? digits with
    | some _ => .ok (digits, close.next)
    | none => refuse hexInvalid (close.since (c.behind + 1))

/-- A character by its number, with the cursor behind the letter that tells how many digits there are. -/
def byNumber (letter : Char) (c : Cursor) : Except PatternFault (Primitive × Cursor) :=
  match c.rest with
  | [] => refuse escapeUnfinished c.here
  | '{' :: _ => do
    let (digits, last) ← bracedDigits c
    return (literal ((hexChar? digits).getD ' ') false, last)
  | _ => do
    let (digits, last) ← hexDigits (if letter = 'x' then 2 else if letter = 'u' then 4 else 8) c
    match hexChar? digits with
    | some x => return (literal x (letter = 'x'), last)
    | none => refuse hexInvalid (last.since c.behind)

/-! ## Properties -/

/-- A property, with the cursor behind its letter. One letter names a property without braces. -/
def byProperty (c : Cursor) : Except PatternFault (Primitive × Cursor) :=
  match c.rest with
  | [] => refuse escapeUnfinished c.here
  | '{' :: _ =>
    let (name, close) := c.next.takeWhile (· ≠ '}')
    if close.rest = [] then refuse escapeUnfinished close.here else .ok (property name, close.bump)
  | x :: _ => if x = '\\' then refuse propertyInvalid c.ahead else .ok (property [x], c.next)

/-! ## Edges of words -/

/-- The condition with a name in braces; `none` if the braces hold something else. The escape starts at
`start`. -/
def namedEdge (start : Nat) (c : Cursor) : Except PatternFault (Option (Place × Cursor)) :=
  let isNameChar (x : Char) : Bool := x.isAlpha || x == '-'
  let (name, close) := c.next.takeWhile isNameChar
  if c.next.rest = [] then refuse edgeUnfinished (c.next.since start)
  else if name = [] then .ok none
  else if close.rest.head? ≠ some '}' then refuse edgeUnclosed (close.since c.behind)
  else if name = "start".toList then .ok (some (.wordStart, close.bump))
  else if name = "end".toList then .ok (some (.wordEnd, close.bump))
  else if name = "start-half".toList then .ok (some (.wordStartHalf, close.bump))
  else if name = "end-half".toList then .ok (some (.wordEndHalf, close.bump))
  else refuse edgeUnrecognized (close.since c.next.behind)

/-! ## Escapes -/

def controls : List (Char × Char) :=
  [('a', '\x07'), ('f', '\x0C'), ('t', '\t'), ('n', '\n'), ('r', '\r'), ('v', '\x0B')]

def places : List (Char × Place) :=
  [('A', .textStart), ('z', .textEnd), ('B', .notWordEdge), ('<', .wordStart), ('>', .wordEnd)]

/-- Signs of ASCII that may be escaped to stand for themselves. -/
def isSign (x : Char) : Bool := x.toNat < 128 && !x.isAlphanum && x != '<' && x != '>'

/-- What an escape stands for, with the cursor at the backslash. -/
def ofEscape (c : Cursor) : Except PatternFault (Primitive × Cursor) :=
  let start := c.behind
  let c := c.bump
  match c.rest with
  | [] => refuse escapeUnfinished (c.since start)
  | x :: _ =>
    if x.isDigit then refuse backreference (c.bump.since start)
    else if x = 'x' ∨ x = 'u' ∨ x = 'U' then byNumber x c.next
    else if x = 'p' ∨ x = 'P' then byProperty c.next
    else if "dswDSW".toList.contains x then .ok (shorthand x, c.bump)
    else if isSign x then .ok (literal x false, c.bump)
    else if x = 'b' then do
      let edge ← if c.bump.rest.head? = some '{' then namedEdge start c.bump else .ok none
      let (p, last) := edge.getD (.wordEdge, c.bump)
      return (place p, last)
    else
      match controls.lookup x, places.lookup x with
      | some control, _ => .ok (literal control false, c.bump)
      | none, some p => .ok (place p, c.bump)
      | none, none => refuse escapeUnrecognized (c.bump.since start)

end Primitive

end Calculator
