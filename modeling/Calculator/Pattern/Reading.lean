import Calculator.Pattern.Bracket

/-!
# Reading patterns

A pattern is read from its text part by part. Groups in parentheses may nest; flags hold up to the end of
the group that they stand in.
-/

namespace Calculator

inductive Pattern.Refusal where
  | fault (f : PatternFault)
  /-- It asks for edges of words beyond ASCII, which cannot be told. -/
  | wideWords
deriving DecidableEq, Repr

def Pattern.Refusal.message (text : Text) : Pattern.Refusal → Text
  | fault f => f.message text
  | wideWords => "error building NFA".toList

/-! ## Readings in progress -/

/-- A part of a row: a pattern, or flags that hold from here on. -/
inductive PatternReading.Part where
  | pattern (p : Pattern)
  | flags
deriving DecidableEq, Repr

/-- A group whose end has not been read, and what was read in front of it. -/
structure PatternReading.Group where
  opening : Span
  flags : PatternFlags
  spaced : Bool
  row : List PatternReading.Part
  choices : List Pattern
deriving DecidableEq, Repr

/-- A pattern in the making. The latest parts, choices and groups come first. -/
structure PatternReading where
  cursor : Cursor
  flags : PatternFlags := {}
  row : List PatternReading.Part := []
  choices : List Pattern := []
  groups : List PatternReading.Group := []
  names : List (Text × Span) := []
  /-- The first fault that keeps a set or a character from being searched for. -/
  fault : Option PatternFault := none
  wideWords : Bool := false
deriving DecidableEq, Repr

namespace PatternReading

open Cursor PatternFault.Kind

abbrev Step := Except PatternFault PatternReading

def add (r : PatternReading) (p : Pattern) (last : Cursor) : PatternReading :=
  { r with row := .pattern p :: r.row, cursor := last }

def addSet (r : PatternReading) (found : CharSet.Found) (last : Cursor) : PatternReading :=
  { r with row := .pattern (.one found.set) :: r.row, cursor := last, fault := r.fault <|> found.fault }

def patterns (row : List Part) : List Pattern :=
  row.reverse.filterMap fun
    | .pattern p => some p
    | .flags => none

/-- The pattern of all choices up to here. -/
def pattern (r : PatternReading) : Pattern :=
  let last := Pattern.row (patterns r.row)
  match r.choices.reverse with
  | [] => last
  | first :: later => .choice first (later ++ [last])

/-! ## Flags -/

def switch (flag : Char) (on : Bool) (flags : PatternFlags) : PatternFlags :=
  if flag = 'i' then { flags with ignoreCase := on }
  else if flag = 'm' then { flags with manyLines := on }
  else if flag = 's' then { flags with dotAll := on }
  else if flag = 'R' then { flags with carriage := on }
  else if flag = 'u' then { flags with wide := on }
  else flags

/-- Flags as they are read: with their spans, and whether they are switched on. -/
structure FlagList where
  flags : List (Char × Bool) := []
  spans : List (Char × Span) := []
deriving DecidableEq, Repr

/-- Reads flags up to a colon or a closing parenthesis; those behind a hyphen are switched off. -/
def flagList (on : Bool) : Nat → FlagList → Cursor → Except PatternFault (FlagList × Cursor)
  | 0, _, c => refuse flagUnfinished c.here
  | steps + 1, found, c =>
    match c.rest with
    | [] => refuse flagUnfinished c.here
    | x :: _ =>
      if x = ':' ∨ x = ')' then
        match found.spans.head? with
        | some ('-', span) => refuse negationDangling span
        | _ => .ok (found, c)
      else if x ≠ '-' ∧ !"imsURux".toList.contains x then refuse flagUnrecognized c.ahead
      else
        match found.spans.lookup x with
        | some earlier => .error ⟨if x = '-' then negationRepeated else flagDuplicate, c.ahead, some earlier⟩
        | none =>
          let more : FlagList :=
            ⟨if x = '-' then found.flags else (x, on) :: found.flags, (x, c.ahead) :: found.spans⟩
          flagList (on && x != '-') steps more c.bump

/-- Puts flags in force. -/
def apply (r : PatternReading) (found : FlagList) (last : Cursor) : PatternReading :=
  { r with
    flags := found.flags.foldl (fun flags f => switch f.1 f.2 flags) r.flags
    cursor := { last with spaced := (found.flags.lookup 'x').getD r.cursor.spaced } }

/-! ## Groups -/

def isNameChar (first : Bool) (x : Char) : Bool :=
  x == '_' || x.isAlpha || 128 ≤ x.toNat || (!first && (x.isDigit || x == '.' || x == '[' || x == ']'))

/-- The name of a group, with the cursor at its start. -/
def groupName (r : PatternReading) (c : Cursor) : Except PatternFault (Text × Cursor) :=
  let name := match c.rest with
    | [] => []
    | x :: rest => if isNameChar true x then x :: rest.takeWhile (isNameChar false) else []
  let close := c.moveTo (c.rest.drop name.length)
  if close.rest = [] then refuse groupNameUnclosed close.here
  else if close.rest.head? ≠ some '>' then refuse groupNameInvalid close.ahead
  else if name = [] then refuse groupNameEmpty c.here
  else
    match r.names.lookup name with
    | some earlier => .error ⟨groupNameDuplicate, close.since c.behind, some earlier⟩
    | none => .ok (name, close.bump)

/-- Begins a group that opens here; its inner part begins at `inner`. -/
def enter (r : PatternReading) (inner : Cursor) : PatternReading :=
  let g : Group := ⟨r.cursor.ahead, r.flags, r.cursor.spaced, r.row, r.choices⟩
  { r with row := [], choices := [], groups := g :: r.groups, cursor := inner }

/-- Reads an opening parenthesis and what belongs to it. -/
def openGroup (r : PatternReading) : Step :=
  let opening := r.cursor.ahead
  let c := r.cursor.next
  let looks := ["?=", "?!", "?<=", "?<!"].findSome? c.over?
  match looks, c.over? "?P<" <|> c.over? "?<", c.over? "?" with
  | some last, _, _ => refuse lookAround (last.since opening.start)
  | none, some nameStart, _ => do
    let (name, inner) ← groupName r nameStart
    return { enter r inner with names := (name, ⟨nameStart.behind, nameStart.behind + name.length⟩) :: r.names }
  | none, none, some flagStart =>
    if flagStart.rest = [] then refuse groupUnclosed opening
    else do
      let (found, last) ← flagList true (flagStart.rest.length + 1) {} flagStart
      if last.rest.head? = some ':' then return apply (enter r last.bump) found last.bump
      else if found.spans = [] then refuse repetitionMissing c.here
      else return apply { r with row := .flags :: r.row } found last.bump
  | none, none, none => .ok (enter r c)

def closeGroup (r : PatternReading) : Step :=
  match r.groups with
  | [] => refuse groupUnopened r.cursor.ahead
  | g :: groups =>
    .ok { r with
      row := .pattern r.pattern :: g.row, choices := g.choices, groups := groups, flags := g.flags
      cursor := { r.cursor with spaced := g.spaced }.bump }

/-! ## Repetitions -/

def repeatable (r : PatternReading) : Except PatternFault (Pattern × List Part) :=
  match r.row with
  | .pattern p :: row => .ok (p, row)
  | _ => refuse repetitionMissing r.cursor.here

/-- Repeats the last pattern of the row. A question mark that follows has no effect on what is found. -/
def repeated (r : PatternReading) (least : Nat) (most : Option Nat) (last : Cursor) : Step := do
  let (p, row) ← repeatable r
  return { r with row := .pattern (.repeated p least most) :: row, cursor := (last.over? "?").getD last }

/-- A number of at most 32 bits, with blanks around it, and where it ends. -/
def number (c : Cursor) : Except PatternFault Nat × Cursor :=
  let start := c.moveTo (c.rest.dropWhile isBlank)
  let (digits, behind) := start.takeWhile Char.isDigit
  let n := digits.foldl (fun n d => 10 * n + (d.toNat - '0'.toNat)) 0
  let found :=
    if digits = [] then refuse countEmpty (behind.since start.behind)
    else if 4294967296 ≤ n then refuse numberInvalid (behind.since start.behind)
    else .ok n
  (found, (behind.moveTo (behind.rest.dropWhile isBlank)).skip)

def counted (r : PatternReading) : Step := do
  let _ ← repeatable r
  let unclosed (c : Cursor) : Step := refuse countUnclosed (c.since r.cursor.behind)
  let close (least : Nat) (most : Option Nat) (c : Cursor) : Step :=
    let last := (c.next.over? "?").getD c.next
    if c.rest.head? ≠ some '}' then unclosed c
    else if most.any (· < least) then refuse countInvalid (last.since r.cursor.behind)
    else repeated r least most c.next
  let start := r.cursor.next
  let (least, comma) := number start
  let (most, last) := number comma.next
  if start.rest = [] then unclosed start
  else if comma.rest = [] then unclosed comma
  else if comma.rest.head? ≠ some ',' then close (← least) (some (← least)) comma
  else if comma.next.rest = [] then unclosed comma.next
  else if comma.next.rest.head? = some '}' then close (← least) none comma.next
  else close (← least) (some (← most)) last

/-! ## Single characters -/

/-- The set of any character; without a flag, one that ends no line. -/
def dot (flags : PatternFlags) (span : Span) : CharSet.Found :=
  let ends := if flags.carriage then ['\r', '\n'] else ['\n']
  ⟨.outside (if flags.dotAll then .nothing else .ofList ends),
    if flags.wide then none else some ⟨invalidBytes, span, none⟩⟩

def literal (flags : PatternFlags) (span : Span) (x : Char) (asByte : Bool) : CharSet.Found :=
  let kind :=
    if flags.wide then if flags.ignoreCase then some caseUnavailable else none
    else if asByte ∧ 128 ≤ x.toNat then some invalidBytes
    else none
  let set := CharSet.range x x
  ⟨if flags.ignoreCase then .anyCase set else set, kind.map fun k => ⟨k, span, none⟩⟩

def lineSign (flags : PatternFlags) (atStart : Bool) : Place :=
  if !flags.manyLines then if atStart then .textStart else .textEnd
  else if flags.carriage then if atStart then .carriageStart else .carriageEnd
  else if atStart then .lineStart else .lineEnd

/-- Whether a condition asks for words. -/
def asksForWords : Place → Bool
  | .textStart | .textEnd | .lineStart | .lineEnd | .carriageStart | .carriageEnd => false
  | _ => true

def escape (r : PatternReading) : Step := do
  let (found, last) ← Primitive.ofEscape r.cursor
  let span := last.since r.cursor.behind
  match found with
  | .literal x asByte => return r.addSet (literal r.flags span x asByte) last
  | .shorthand name => return r.addSet (.ofShorthand r.flags span name) last
  | .property name => return r.addSet (.ofProperty r.flags span name) last
  | .place p => return { r.add (.place p) last with wideWords := r.wideWords || (asksForWords p && r.flags.wide) }

/-! ## The whole pattern -/

/-- Reads the next part, which begins with the given character. -/
def step (r : PatternReading) (x : Char) : Step :=
  let behind := r.cursor.bump
  if x = '(' then openGroup r
  else if x = ')' then closeGroup r
  else if x = '|' then
    .ok { r with row := [], choices := .row (patterns r.row) :: r.choices, cursor := behind }
  else if x = '[' then do
    let (found, last) ← CharSet.inBrackets r.flags r.cursor
    return r.addSet found last
  else if x = '?' then repeated r 0 (some 1) behind
  else if x = '*' then repeated r 0 none behind
  else if x = '+' then repeated r 1 none behind
  else if x = '\x7B' then counted r
  else if x = '\\' then escape r
  else if x = '.' then .ok (r.addSet (dot r.flags r.cursor.ahead) behind)
  else if x = '^' then .ok (r.add (.place (lineSign r.flags true)) behind)
  else if x = '$' then .ok (r.add (.place (lineSign r.flags false)) behind)
  else .ok (r.addSet (literal r.flags r.cursor.ahead x false) behind)

/-- Reads to the end, in at most as many steps as there are characters. -/
def finish : Nat → PatternReading → Step
  | 0, r => .ok r
  | steps + 1, r =>
    let r := { r with cursor := r.cursor.skip }
    match r.cursor.rest with
    | [] => .ok r
    | x :: _ => do finish steps (← step r x)

end PatternReading

def Pattern.ofText (text : Text) : Except Pattern.Refusal Pattern :=
  match PatternReading.finish (text.length + 1) { cursor := { rest := text } } with
  | .error f => .error (.fault f)
  | .ok r =>
    match r.groups, r.fault with
    | g :: _, _ => .error (.fault ⟨.groupUnclosed, g.opening, none⟩)
    | [], some f => .error (.fault f)
    | [], none => if r.wideWords then .error .wideWords else .ok r.pattern

end Calculator
