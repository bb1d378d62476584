import Calculator.Token

/-!
# Faults in the text of a pattern

A fault has a kind and a span in the text. It is shown as the text with carets under the span.
-/

namespace Calculator

/-- The characters from one place to another, counted from the start of a text. -/
structure Span where
  start : Nat
  stop : Nat
deriving DecidableEq, Repr

inductive PatternFault.Kind where
  | groupUnclosed
  | groupUnopened
  | groupNameEmpty
  | groupNameInvalid
  | groupNameUnclosed
  | groupNameDuplicate
  | lookAround
  | backreference
  | repetitionMissing
  | countUnclosed
  | countEmpty
  | countInvalid
  | numberInvalid
  | flagUnrecognized
  | flagDuplicate
  | flagUnfinished
  | negationRepeated
  | negationDangling
  | escapeUnfinished
  | escapeUnrecognized
  | hexDigitInvalid
  | hexEmpty
  | hexInvalid
  | propertyInvalid
  | edgeUnclosed
  | edgeUnrecognized
  | edgeUnfinished
  | classUnclosed
  | classEscapeInvalid
  | rangeBoundInvalid
  | rangeInvalid
  | wideCharacter
  | invalidBytes
  | propertyUnknown
  | propertyValueUnknown
  | shorthandUnavailable
  | caseUnavailable
deriving DecidableEq, Repr

/-- A fault and where it is; some faults also show where the like stood before. -/
structure PatternFault where
  kind : PatternFault.Kind
  span : Span
  earlier : Option Span := none
deriving DecidableEq, Repr

namespace PatternFault

/-! ## Wording -/

def Kind.text : Kind → String
  | .groupUnclosed => "unclosed group"
  | .groupUnopened => "unopened group"
  | .groupNameEmpty => "empty capture group name"
  | .groupNameInvalid => "invalid capture group character"
  | .groupNameUnclosed => "unclosed capture group name"
  | .groupNameDuplicate => "duplicate capture group name"
  | .lookAround => "look-around, including look-ahead and look-behind, is not supported"
  | .backreference => "backreferences are not supported"
  | .repetitionMissing => "repetition operator missing expression"
  | .countUnclosed => "unclosed counted repetition"
  | .countEmpty => "repetition quantifier expects a valid decimal"
  | .countInvalid => "invalid repetition count range, the start must be <= the end"
  | .numberInvalid => "decimal literal invalid"
  | .flagUnrecognized => "unrecognized flag"
  | .flagDuplicate => "duplicate flag"
  | .flagUnfinished => "expected flag but got end of regex"
  | .negationRepeated => "flag negation operator repeated"
  | .negationDangling => "dangling flag negation operator"
  | .escapeUnfinished => "incomplete escape sequence, reached end of pattern prematurely"
  | .escapeUnrecognized => "unrecognized escape sequence"
  | .hexDigitInvalid => "invalid hexadecimal digit"
  | .hexEmpty => "hexadecimal literal empty"
  | .hexInvalid => "hexadecimal literal is not a Unicode scalar value"
  | .propertyInvalid => "invalid Unicode character class"
  | .edgeUnclosed => "special word boundary assertion is either unclosed or contains an invalid character"
  | .edgeUnrecognized =>
    "unrecognized special word boundary assertion, valid choices are: start, end, start-half or end-half"
  | .edgeUnfinished =>
    "found either the beginning of a special word boundary or a bounded repetition on a \\b with an opening brace, " ++
      "but no closing brace"
  | .classUnclosed => "unclosed character class"
  | .classEscapeInvalid => "invalid escape sequence found in character class"
  | .rangeBoundInvalid => "invalid range boundary, must be a literal"
  | .rangeInvalid => "invalid character class range, the start must be <= the end"
  | .wideCharacter => "Unicode not allowed here"
  | .invalidBytes => "pattern can match invalid UTF-8"
  | .propertyUnknown => "Unicode property not found"
  | .propertyValueUnknown => "Unicode property value not found"
  | .shorthandUnavailable =>
    "Unicode-aware Perl class not found (make sure the unicode-perl feature is enabled)"
  | .caseUnavailable =>
    "Unicode-aware case insensitivity matching is not available (make sure the unicode-case feature is enabled)"

/-! ## Display -/

/-- The line and the column of a place in a text, both counted from 0. -/
def position (text : Text) (place : Nat) : Nat × Nat :=
  let before := text.take place
  (before.count '\n', (before.reverse.takeWhile (· ≠ '\n')).length)

/-- Carets under spans of one line, from a column on. At least one caret shows a span. -/
def carets (column : Nat) : List (Nat × Nat) → Text
  | [] => []
  | (start, stop) :: later =>
    List.replicate (start - column) ' ' ++ List.replicate (max 1 (stop - start)) '^' ++
      carets (max column start + max 1 (stop - start)) later

def spans (f : PatternFault) : List Span :=
  match f.earlier with
  | none => [f.span]
  | some e => if f.span.start < e.start then [f.span, e] else [e, f.span]

/-- The lines of a text, each behind its margin and with carets below it. -/
def notated (text : Text) (shown : List Span) (margin : Nat → Text) : Text :=
  let note (i : Nat) (line : Text) : List Text :=
    let here := shown.filter fun s => (position text s.start).1 = i && (position text s.stop).1 = i
    let columns := here.map fun s => ((position text s.start).2, (position text s.stop).2)
    (margin i ++ line) ::
      if here.isEmpty then [] else [List.replicate (margin i).length ' ' ++ carets 0 columns]
  printed ((lines text).mapIdx note).flatten

def longNote (text : Text) (s : Span) : Text :=
  let (line, column) := position text s.start
  let (lastLine, lastColumn) := position text s.stop
  "on line ".toList ++ countText (line + 1) ++ " (column ".toList ++ countText (column + 1) ++
    ") through line ".toList ++ countText (lastLine + 1) ++ " (column ".toList ++ countText lastColumn ++ [')']

/-- The display of a fault in a text. Several lines are numbered and stand between rules. -/
def message (text : Text) (f : PatternFault) : Text :=
  let body :=
    if text.contains '\n' then
      let count := (lines text).length + if text.getLast? = some '\n' then 1 else 0
      let margin (i : Nat) : Text :=
        let number := countText (i + 1)
        List.replicate ((countText count).length - number.length) ' ' ++ number ++ ": ".toList
      let rule := List.replicate 79 '~' ++ ['\n']
      let long := f.spans.filter fun s => (position text s.start).1 != (position text s.stop).1
      rule ++ notated text f.spans margin ++ rule ++ printed (long.map (longNote text))
    else notated text f.spans fun _ => "    ".toList
  "regex parse error:\n".toList ++ body ++ "error: ".toList ++ f.kind.text.toList

end PatternFault

end Calculator
