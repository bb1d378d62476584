import Calculator.Operator

/-!
# Tokens

A token is a symbol or a run of literal characters, with the place where it starts. Blanks separate and
are skipped, an operator symbol or a parenthesis is a token by itself, and every other character belongs
to a literal, which runs on as far as it can.
-/

namespace Calculator

def countText (n : Nat) : Text := Nat.toDigits 10 n

/-! ## Places in a source text -/

/-- A place between two characters: its line and column count from 1, its offset counts the bytes
of UTF-8 before it. -/
structure Location where
  line : Nat
  column : Nat
  offset : Nat
deriving DecidableEq, Repr

namespace Location

def start : Location := ⟨1, 1, 0⟩

/-- One character of `Lexer::update_position`: a line feed alone starts a new line. -/
def after (here : Location) (c : Char) : Location :=
  if c = '\n' then ⟨here.line + 1, 1, here.offset + c.utf8Size⟩
  else ⟨here.line, here.column + 1, here.offset + c.utf8Size⟩

def text (here : Location) : Text := countText here.line ++ [':'] ++ countText here.column

end Location

/-! ## Tokens -/

/-- `TokenType`, with the operator that `Operator::from_token` finds in it. -/
inductive Token.Kind where
  | operator (op : Operator)
  | leftParen
  | rightParen
  | literal
deriving DecidableEq, Repr

structure Token where
  kind : Token.Kind
  lexeme : Text
  location : Location
deriving DecidableEq, Repr

namespace Token

def Kind.text : Kind → Text
  | .operator op => [op.symbol]
  | .leftParen => ['(']
  | .rightParen => [')']
  | .literal => "literal".toList

/-- `Token::end_offset`. -/
def endOffset (t : Token) : Nat := t.location.offset + byteSize t.lexeme

/-- Kind, lexeme and place, as in `literal '12' at 1:4`. -/
def text (t : Token) : Text :=
  t.kind.text ++ " '".toList ++ t.lexeme ++ "' at ".toList ++ t.location.text

/-! ## The tokens of a text -/

/-- The pattern of `LogosToken` that a character starts or belongs to; a blank is skipped. -/
def Kind.ofChar? (c : Char) : Option Kind :=
  if isBlank c then none
  else if c = '(' then some .leftParen
  else if c = ')' then some .rightParen
  else match Operator.ofSymbol? c with
    | some op => some (.operator op)
    | none => some .literal

/-- A character of a literal: neither blank nor a symbol. -/
def isLiteralChar (c : Char) : Bool := Kind.ofChar? c == some .literal

/-- Starts the first token, a literal, one character earlier. -/
def joinLiteral (c : Char) (here : Location) : List Token → List Token
  | [] => [⟨.literal, [c], here⟩]
  | t :: later => ⟨t.kind, c :: t.lexeme, here⟩ :: later

end Token

open Token

/-- `Lexer::next` again and again, on a text that starts at `here`. -/
def tokensFrom (here : Location) : Text → List Token
  | [] => []
  | c :: rest =>
    match Kind.ofChar? c with
    | none => tokensFrom (here.after c) rest
    | some .literal =>
      if rest.head?.any isLiteralChar then joinLiteral c here (tokensFrom (here.after c) rest)
      else ⟨.literal, [c], here⟩ :: tokensFrom (here.after c) rest
    | some kind => ⟨kind, [c], here⟩ :: tokensFrom (here.after c) rest

/-- `tokenize`. -/
def tokens (source : Text) : List Token := tokensFrom .start source

end Calculator
