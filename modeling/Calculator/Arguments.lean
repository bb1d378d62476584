import Calculator.Text.Blank

/-!
# The words of the command line

Switches of the calculator come first, then the name of a command and the words it takes. A word that
starts with a hyphen is a switch or a group of one-letter switches, until a word of just two hyphens
ends the switches. The first word that is not understood decides.
-/

namespace Calculator

inductive Command where
  /-- Read and evaluate lines. -/
  | repl
  /-- Evaluate the lines of a file, or of the standard input. -/
  | eval (input : Option Text)
  /-- Show an expression as postfix text. -/
  | convert (expression : Text)
deriving DecidableEq, Repr

/-- The fields of `Cli`, once the command line is understood. -/
structure Invocation where
  verbosity : Nat
  command : Option Command
deriving DecidableEq, Repr

/-- Why a command line leads to no command. -/
inductive Refusal where
  | help
  | version
  | unknownArgument
  | invalidCommand
  | missingArgument
  | unneededValue
  | emptyValue
deriving DecidableEq, Repr

/-- The exit code: to have asked for help or the version is no failure. -/
def Refusal.code : Refusal → Nat
  | help | version => 0
  | _ => 2

namespace Arguments

/-! ## Words -/

/-- A word of the command line before the switches end. -/
inductive Word where
  /-- The two hyphens that end the switches. -/
  | terminator
  /-- A switch by its name, and whether a value is attached to it. -/
  | long (name : Text) (attached : Bool)
  /-- Switches of one letter each. -/
  | short (letters : Text)
  /-- Any other word, a lone hyphen among them. -/
  | plain (word : Text)
deriving DecidableEq, Repr

def Word.ofText : Text → Word
  | ['-', '-'] => .terminator
  | '-' :: '-' :: rest => .long (rest.takeWhile (· != '=')) ('=' ∈ rest)
  | '-' :: letter :: letters => .short (letter :: letters)
  | word => .plain word

/-! ## Commands -/

/-- Which words a command takes: how many, whether they may start with a hyphen, and whether they may
be empty. -/
structure Pattern where
  most : Nat
  hyphens : Bool
  empties : Bool
deriving DecidableEq, Repr

/-- Takes the words of a command, of which `taken` are taken already, the latest first. Every command
answers a request for help, unless it then has an empty word that it may not have. -/
def takeWords (p : Pattern) (taken : List Text) : List Text → Except Refusal (List Text)
  | [] => if !p.empties && taken.contains [] then .error .emptyValue else .ok taken.reverse
  | word :: later =>
    let free := taken.length < p.most
    let asked : Refusal := if !p.empties && taken.contains [] then .emptyValue else .help
    match Word.ofText word with
    | .terminator =>
      if p.most < taken.length + later.length then .error .unknownArgument
      else if !p.empties && (taken ++ later).contains [] then .error .emptyValue
      else .ok (taken.reverse ++ later)
    | .long name attached =>
      if name = "help".toList then .error (if attached then .unneededValue else asked)
      else if p.hyphens && free then takeWords p (word :: taken) later
      else .error .unknownArgument
    | .short letters =>
      if p.hyphens && free && letters.any (· != 'h') then takeWords p (word :: taken) later
      else if letters.head? = some 'h' then .error asked
      else .error .unknownArgument
    | .plain _ => if free then takeWords p (word :: taken) later else .error .unknownArgument

def commandNames : List Text := ["repl".toList, "eval".toList, "postfix".toList, "help".toList]

/-- Help on a command that is named, or on the calculator; no command has commands of its own. -/
def helpOn : List Text → Refusal
  | [] => .help
  | [name] => if name ∈ commandNames then .help else .invalidCommand
  | _ => .invalidCommand

def command (name : Text) (later : List Text) : Except Refusal Command :=
  if name = "repl".toList then
    match takeWords ⟨0, false, true⟩ [] later with
    | .error r => .error r
    | .ok _ => .ok .repl
  else if name = "eval".toList then
    match takeWords ⟨1, false, false⟩ [] later with
    | .error r => .error r
    | .ok taken => .ok (.eval taken.head?)
  else if name = "postfix".toList then
    match takeWords ⟨1, true, true⟩ [] later with
    | .error r => .error r
    | .ok [] => .error .missingArgument
    | .ok (expression :: _) => .ok (.convert expression)
  else if name = "help".toList then .error (helpOn later)
  else .error .invalidCommand

/-! ## Switches of the calculator -/

/-- One more request for detail; they are counted up to 255. -/
def louder (verbosity : Nat) : Nat := min 255 (verbosity + 1)

/-- Takes a group of one-letter switches. -/
def takeLetters (verbosity : Nat) : Text → Except Refusal Nat
  | [] => .ok verbosity
  | 'v' :: later => takeLetters (louder verbosity) later
  | 'h' :: _ => .error .help
  | 'V' :: _ => .error .version
  | _ :: _ => .error .unknownArgument

def takeName (verbosity : Nat) (name : Text) (attached : Bool) : Except Refusal Nat :=
  if name = "verbose".toList then if attached then .error .unneededValue else .ok (louder verbosity)
  else if name = "help".toList then .error (if attached then .unneededValue else .help)
  else if name = "version".toList then .error (if attached then .unneededValue else .version)
  else .error .unknownArgument

def parseFrom (verbosity : Nat) : List Text → Except Refusal Invocation
  | [] => .ok ⟨verbosity, none⟩
  | word :: later =>
    match Word.ofText word with
    | .terminator => if later = [] then .ok ⟨verbosity, none⟩ else .error .unknownArgument
    | .long name attached =>
      match takeName verbosity name attached with
      | .error r => .error r
      | .ok v => parseFrom v later
    | .short letters =>
      match takeLetters verbosity letters with
      | .error r => .error r
      | .ok v => parseFrom v later
    | .plain name =>
      match command name later with
      | .error r => .error r
      | .ok c => .ok ⟨verbosity, some c⟩

/-- `Cli::parse` on the words behind the name of the program. -/
def parse (args : List Text) : Except Refusal Invocation := parseFrom 0 args

end Arguments

end Calculator
