import Calculator.Log.Event
import Calculator.Pattern.Reading

/-!
# Which records are shown

A filter holds directives. Of those whose target begins the record's target the one with the longest
target decides, and of equal ones the last. Without any the record is not shown. If the filter has a
pattern too, it has to be found in the message.
-/

namespace Calculator

/-- Shows records of the target, up to a level of detail; zero shows none. -/
structure Directive where
  target : Text
  detail : Nat
deriving DecidableEq, Repr

/-- Directives in the order in which they were given, and a pattern for messages. -/
structure Filter where
  directives : List Directive
  pattern : Option Pattern := none
deriving DecidableEq, Repr

namespace Filter

/-! ## Showing records -/

def detailOf (f : Filter) (target : Text) : Nat :=
  let better (best d : Directive) : Directive :=
    if d.target.isPrefixOf target && best.target.length ≤ d.target.length then d else best
  (f.directives.foldl better ⟨[], 0⟩).detail

def allows (f : Filter) (r : Record) : Bool :=
  r.level.detail ≤ f.detailOf r.target && f.pattern.all (·.isFoundIn r.message)

def paddedLevel (l : Level) : Text := l.text ++ List.replicate (5 - l.text.length) ' '

/-- A record as a line; further lines of its message are indented. -/
def lineOf (r : Record) : Text :=
  ['['] ++ paddedLevel r.level ++ [' '] ++ r.target ++ "] ".toList ++
    "\n    ".toList.intercalate (pieces '\n' r.message) ++ ['\n']

def log (f : Filter) (events : List Event) : Text :=
  ((events.map Event.record).filter f.allows).flatMap lineOf

/-! ## Filters -/

/-- The default level of `init_logging`: at first warnings, then a level more for each request. -/
def ofVerbosity (n : Nat) : Filter := { directives := [⟨[], min 5 (n + 2)⟩] }

/-- The level of detail that a word names, whatever the case of its letters. -/
def detail? (word : Text) : Option Nat :=
  let upper := word.map Char.toUpper
  if upper = "OFF".toList then some 0
  else ([.error, .warn, .info, .debug, .trace].find? fun l : Level => l.text == upper).map Level.detail

def trimmed (text : Text) : Text :=
  ((text.dropWhile isBlank).reverse.dropWhile isBlank).reverse

/-- The directive that a piece of a specification writes: a level, a target, or a target and a level
with an equals sign between them. Otherwise the part that makes no sense. -/
def directive (piece : Text) : Except Text Directive :=
  match pieces '=' piece with
  | [word] =>
    match detail? word with
    | some n => .ok ⟨[], n⟩
    | none => .ok ⟨word, Level.trace.detail⟩
  | [target, word] =>
    if trimmed word = [] then .ok ⟨target, Level.trace.detail⟩
    else
      match detail? (trimmed word) with
      | some n => .ok ⟨target, n⟩
      | none => .error (trimmed word)
  | _ => .error piece

def readDirectives (list : Text) : List (Except Text Directive) :=
  (((pieces ',' list).map trimmed).filter (· ≠ [])).map directive

/-- The directives of a list that make sense. Without any, errors are shown. -/
def directivesOf (list : Text) : List Directive :=
  match (readDirectives list).filterMap Except.toOption with
  | [] => [⟨[], Level.error.detail⟩]
  | ds => ds

/-- The filter of a specification: directives, and behind a slash a pattern. -/
def ofSpec (spec : Text) : Filter :=
  match pieces '/' spec with
  | [list] => { directives := directivesOf list }
  | [list, pattern] => { directives := directivesOf list, pattern := (Pattern.ofText pattern).toOption }
  | _ => { directives := directivesOf [] }

def complaint (about : Text) : Text := "warning: ".toList ++ about ++ ", ignoring it".toList

def invalidSpec (part : Text) : Text := "invalid logging spec '".toList ++ part ++ ['\'']

/-- The complaints about the directives of a list that make no sense. -/
def directiveComplaints (list : Text) : List Text :=
  (readDirectives list).filterMap fun
    | .ok _ => none
    | .error part => some (complaint (invalidSpec part))

def patternComplaints (pattern : Text) : List Text :=
  match Pattern.ofText pattern with
  | .ok _ => []
  | .error r => [complaint ("invalid regex filter - ".toList ++ r.message pattern)]

/-- The complaints about the parts of a specification that make no sense. -/
def complaints (spec : Text) : List Text :=
  match pieces '/' spec with
  | [list] => directiveComplaints list
  | [list, pattern] => directiveComplaints list ++ patternComplaints pattern
  | _ => [complaint (invalidSpec spec ++ " (too many '/'s)".toList)]

end Filter

end Calculator
