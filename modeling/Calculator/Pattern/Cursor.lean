import Calculator.Pattern.Fault

/-!
# Cursors

A cursor stands in the text of a pattern and moves over its characters.
-/

namespace Calculator

/-- A place in a text: what lies ahead of it, and how many characters lie behind it. -/
structure Cursor where
  rest : Text
  behind : Nat := 0
  /-- Blanks and comments between the parts of the pattern mean nothing. -/
  spaced : Bool := false
deriving DecidableEq, Repr

namespace Cursor

/-! ## Moves -/

/-- A move to a later place, with the given rest. -/
def moveTo (c : Cursor) (rest : Text) : Cursor :=
  { c with rest := rest, behind := c.behind + (c.rest.length - rest.length) }

def bump (c : Cursor) : Cursor := c.moveTo c.rest.tail

/-- A text without the blanks and comments at its start; a comment goes from a number sign to the end of
the line. -/
def unspaced (inComment : Bool) : Text → Text
  | [] => []
  | x :: rest =>
    if inComment then unspaced (x ≠ '\n') rest
    else if isBlank x then unspaced false rest
    else if x = '#' then unspaced true rest
    else x :: rest

/-- Moves over what means nothing. -/
def skip (c : Cursor) : Cursor := if c.spaced then c.moveTo (unspaced false c.rest) else c

def next (c : Cursor) : Cursor := c.bump.skip

/-- Moves over a word, if it stands here. -/
def over? (c : Cursor) (word : String) : Option Cursor :=
  if word.toList.isPrefixOf c.rest then some (c.moveTo (c.rest.drop word.length)) else none

/-- Takes at most `n` of the next characters, as long as they pass a test. -/
def gather (test : Char → Bool) : Nat → Cursor → Text × Cursor
  | 0, c => ([], c)
  | n + 1, c =>
    match c.rest with
    | [] => ([], c)
    | x :: _ =>
      if test x then
        let (more, last) := gather test n c.next
        (x :: more, last)
      else ([], c)

def takeWhile (test : Char → Bool) (c : Cursor) : Text × Cursor := c.gather test c.rest.length

/-! ## Faults -/

def since (c : Cursor) (start : Nat) : Span := ⟨start, c.behind⟩

/-- The empty span at the cursor. -/
def here (c : Cursor) : Span := ⟨c.behind, c.behind⟩

/-- The span of the next character. -/
def ahead (c : Cursor) : Span := ⟨c.behind, c.bump.behind⟩

/-- Gives up with a fault. -/
def refuse {α : Type} (kind : PatternFault.Kind) (span : Span) : Except PatternFault α :=
  .error ⟨kind, span, none⟩

end Cursor

end Calculator
