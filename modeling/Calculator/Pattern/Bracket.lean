import Calculator.Pattern.Escape

/-!
# Sets in brackets

What stands between brackets in a pattern: characters, ranges, named sets and further brackets, with
operators between groups of them. Some sets can be written but not searched for; they are read like all
others, and the fault is kept until the whole pattern is read.
-/

namespace Calculator

/-- What is in force at a place of the pattern. -/
structure PatternFlags where
  ignoreCase : Bool := false
  manyLines : Bool := false
  dotAll : Bool := false
  /-- A carriage return ends a line too. -/
  carriage : Bool := false
  /-- Sets hold characters beyond ASCII. -/
  wide : Bool := true
deriving DecidableEq, Repr

/-- A set and the first fault that keeps it from being searched for. -/
structure CharSet.Found where
  set : CharSet
  fault : Option PatternFault := none
deriving DecidableEq, Repr

namespace CharSet

open Cursor PatternFault.Kind

/-! ## Members -/

def names : List (String × CharSet) :=
  let digit := range '0' '9'
  let alpha := either (range 'a' 'z') (range 'A' 'Z')
  [("alnum", either digit alpha), ("alpha", alpha), ("ascii", range '\x00' '\x7F'), ("blank", ofList ['\t', ' ']),
    ("cntrl", either (range '\x00' '\x1F') (ofList ['\x7F'])), ("digit", digit), ("graph", range '!' '~'),
    ("lower", range 'a' 'z'), ("print", range ' ' '~'),
    ("punct", either (either (range '!' '/') (range ':' '@')) (either (range '[' '\x60') (range '\x7B' '~'))),
    ("space", either (range '\t' '\r') (ofList [' '])), ("upper", range 'A' 'Z'),
    ("word", either (ofList ['_']) (either digit alpha)),
    ("xdigit", either digit (either (range 'a' 'f') (range 'A' 'F')))]

/-- A set that is complete at a span, or its complement. -/
def Found.complete (flags : PatternFlags) (span : Span) (negated : Bool) (set : CharSet) : Found :=
  let kind :=
    if flags.wide then if flags.ignoreCase ∧ set ≠ nothing then some caseUnavailable else none
    else if negated then some invalidBytes
    else none
  let folded := if flags.ignoreCase then anyCase set else set
  ⟨if negated then outside folded else folded, kind.map fun k => ⟨k, span, none⟩⟩

/-- The set with a short name; a capital stands for the complement. -/
def Found.ofShorthand (flags : PatternFlags) (span : Span) (name : Char) : Found :=
  let kind :=
    if flags.wide then some shorthandUnavailable else if name.isUpper then some invalidBytes else none
  let word := if name.toLower = 'd' then "digit" else if name.toLower = 's' then "space" else "word"
  let set := (names.lookup word).getD nothing
  ⟨if name.isUpper then outside set else set, kind.map fun k => ⟨k, span, none⟩⟩

/-- A set by a property; there are none to choose from. -/
def Found.ofProperty (flags : PatternFlags) (span : Span) (name : Text) : Found :=
  let plain := (name.map Char.toLower).filter fun x => !isBlank x && x != '_' && x != '-'
  let kind :=
    if !flags.wide then wideCharacter
    else if ["cf", "sc", "lc"].any fun short => plain == short.toList then propertyValueUnknown
    else propertyUnknown
  ⟨nothing, some ⟨kind, span, none⟩⟩

def Found.ofLiteral (flags : PatternFlags) (span : Span) (x : Char) (asByte : Bool) : Found :=
  let kind :=
    if flags.wide ∨ x.toNat < 128 then none else some (if asByte then invalidBytes else wideCharacter)
  ⟨range x x, kind.map fun k => ⟨k, span, none⟩⟩

/-- A character or an escape between brackets. -/
def item (c : Cursor) : Except PatternFault (Primitive × Cursor) :=
  match c.rest with
  | [] => refuse classUnclosed c.here
  | x :: _ => if x = '\\' then Primitive.ofEscape c else .ok (.literal x false, c.bump)

def bound (span : Span) : Primitive → Except PatternFault (Char × Bool)
  | .literal x asByte => .ok (x, asByte)
  | _ => refuse rangeBoundInvalid span

/-- A member of a set that stands alone. -/
def single (flags : PatternFlags) (span : Span) : Primitive → Except PatternFault Found
  | .literal x asByte => .ok (.ofLiteral flags span x asByte)
  | .shorthand name => .ok (.ofShorthand flags span name)
  | .property name => .ok (.ofProperty flags span name)
  | .place _ => refuse classEscapeInvalid span

/-- The next member: a range, if a hyphen and a further bound follow. `opening` is the start of the set,
which the end of the text would leave open. -/
def member (flags : PatternFlags) (opening : Span) (c : Cursor) : Except PatternFault (Found × Cursor) := do
  let (low, behindLow) ← item c
  let lowSpan := behindLow.since c.behind
  let hyphen := behindLow.skip
  if hyphen.rest = [] then refuse classUnclosed opening
  else if hyphen.rest.head? ≠ some '-' ∨ ['-', ']'].any fun x => hyphen.next.rest.head? == some x then
    return (← single flags lowSpan low, hyphen)
  else if hyphen.next.rest = [] then refuse classUnclosed opening
  else
    let (high, last) ← item hyphen.next
    let highSpan := last.since hyphen.next.behind
    let (x, xAsByte) ← bound lowSpan low
    let (y, yAsByte) ← bound highSpan high
    if y < x then refuse rangeInvalid (last.since c.behind)
    else
      let first := Found.ofLiteral flags lowSpan x xAsByte
      let second := Found.ofLiteral flags highSpan y yAsByte
      return (⟨range x y, first.fault <|> second.fault⟩, last)

/-- A set by its name between colons, if there is one here. -/
def named? (flags : PatternFlags) (c : Cursor) : Option (Found × Cursor) := do
  let inner ← c.over? "[:"
  let negated := inner.rest.head? = some '^'
  let start := if negated then inner.bump else inner
  let name := start.rest.takeWhile (· ≠ ':')
  let last ← (start.moveTo (start.rest.drop name.length)).over? ":]"
  let set ← names.lookup (String.ofList name)
  return (.complete flags (last.since c.behind) negated set, last)

/-! ## Operators -/

inductive Junction where
  | intersection
  | difference
  | symmetricDifference
deriving DecidableEq, Repr

def Junction.join : Junction → CharSet → CharSet → CharSet
  | intersection, a, b => both a b
  | difference, a, b => both a (outside b)
  | symmetricDifference, a, b => either (both a (outside b)) (both b (outside a))

def junction? (c : Cursor) : Option (Junction × Cursor) :=
  ((c.over? "&&").map (Junction.intersection, ·)) <|> ((c.over? "--").map (Junction.difference, ·)) <|>
    ((c.over? "~~").map (Junction.symmetricDifference, ·))

/-! ## Brackets -/

/-- A set whose closing bracket has not been read. -/
structure Bracket where
  start : Nat
  /-- The opening bracket and what belongs to it. -/
  opening : Span
  negated : Bool
  left : Option (Junction × CharSet) := none
  members : CharSet := .nothing
deriving DecidableEq, Repr

namespace Bracket

def add (b : Bracket) (set : CharSet) : Bracket :=
  { b with members := if b.members = nothing then set else either b.members set }

/-- The set up to here. -/
def set (b : Bracket) : CharSet :=
  match b.left with
  | none => b.members
  | some (j, a) => j.join a b.members

/-- An operator ends a group of members. -/
def split (b : Bracket) (j : Junction) : Bracket := { b with left := some (j, b.set), members := .nothing }

/-- Opens a bracket. Hyphens at the start are members, and so is a closing bracket. -/
def ofOpening (c : Cursor) : Except PatternFault (Bracket × Cursor) :=
  let negated := c.next.rest.head? = some '^'
  let inside := if negated then c.next.next else c.next
  let (hyphens, behind) := inside.takeWhile (· = '-')
  let closes := hyphens = [] ∧ behind.rest.head? = some ']'
  let last := if closes then behind.next else behind
  if inside.rest = [] then refuse classUnclosed (inside.since c.behind)
  else if behind.rest = [] then refuse classUnclosed c.here
  else if last.rest = [] then refuse classUnclosed (last.since c.behind)
  else
    let b : Bracket := { start := c.behind, opening := last.since c.behind, negated := negated }
    .ok (if closes then b.add (range ']' ']') else if hyphens = [] then b else b.add (range '-' '-'), last)

/-- Reads on to the end of the outermost set, in at most as many steps as there are characters. -/
def finish (flags : PatternFlags) : Nat → List Bracket → Bracket → Option PatternFault → Cursor →
    Except PatternFault (Found × Cursor)
  | 0, _, b, _, _ => refuse classUnclosed b.opening
  | steps + 1, outer, b, fault, c =>
    let c := c.skip
    match c.rest with
    | [] => refuse classUnclosed b.opening
    | ']' :: _ =>
      let found := Found.complete flags (c.bump.since b.start) b.negated b.set
      match outer with
      | [] => .ok (⟨found.set, fault <|> found.fault⟩, c.bump)
      | o :: outer => finish flags steps outer (o.add found.set) (fault <|> found.fault) c.bump
    | '[' :: _ =>
      match named? flags c with
      | some (found, last) => finish flags steps outer (b.add found.set) (fault <|> found.fault) last
      | none => do
        let (inner, last) ← ofOpening c
        finish flags steps (b :: outer) inner fault last
    | _ =>
      match junction? c with
      | some (j, last) => finish flags steps outer (b.split j) fault last
      | none => do
        let (found, last) ← member flags b.opening c
        finish flags steps outer (b.add found.set) (fault <|> found.fault) last

end Bracket

def inBrackets (flags : PatternFlags) (c : Cursor) : Except PatternFault (Found × Cursor) := do
  let (b, last) ← Bracket.ofOpening c
  Bracket.finish flags (c.rest.length + 1) [] b none last

end CharSet

end Calculator
