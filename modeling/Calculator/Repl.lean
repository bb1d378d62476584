import Calculator.History
import Calculator.Report

/-!
# The interactive calculator

A session with a history. It reads lines until `exit`, the end of its input, or a line that cannot be
read. Its settings come from variables of the environment; a variable without a usable value changes
nothing.
-/

namespace Calculator

/-! ## Settings -/

abbrev Variables := List (Text × Text)

/-- `ReplConfig`. -/
structure Settings where
  prompt : Text := "Enter an infix expression: ".toList
  historyFile : Option Text := none
  banner : Bool := true
deriving DecidableEq, Repr

namespace Settings

def bannerText : Text := "When done, enter 'exit' to quit the calculator.".toList

/-- `ReplConfig::from_vars`. The prompt is any text but the empty one, the history file any text but a blank
one. The banner is off if its variable is set to anything but the empty text or a zero. -/
def ofVariables (vars : Variables) : Settings where
  prompt := ((vars.lookup "INFIX_PROMPT".toList).filter (· ≠ [])).getD ({} : Settings).prompt
  historyFile := (vars.lookup "INFIX_HISTORY_FILE".toList).filter (!isBlankText ·)
  banner := (vars.lookup "INFIX_NO_BANNER".toList).all fun flag => flag == [] || flag == ['0']

end Settings

/-! ## A session in progress -/

/-- A session in progress and its history. -/
structure Repl where
  session : Session := {}
  history : History := {}
deriving DecidableEq, Repr

namespace Repl

/-- The start: the history is read, if there is one, and the banner printed. -/
def start (f : Filter) (s : Settings) (loaded : Text → Except FileError Text) : Repl × Report :=
  let greeting := if s.banner then printed [Settings.bannerText] else []
  match s.historyFile with
  | none => ({}, { stdout := greeting })
  | some path =>
    match loaded path with
    | .ok content => ({ history := .ofFile content }, { stdout := greeting })
    | .error e => ({}, { stdout := greeting, stderr := f.log [.historyMissing path e.message] })

/-- The state after a line, which enters the history unless it is blank. -/
def take (r : Repl) (line : Text) : Repl :=
  ⟨r.session.count line, if isBlankText line then r.history else r.history.add line⟩

/-- What is printed and logged for a line. -/
def answer (f : Filter) (line : Text) : Report :=
  { stdout := printed (Session.reply line).out
    stderr := if Session.isExit line then [] else f.log (evaluationEvents line) }

/-- What is said of a line that cannot be read. -/
def failure (e : FileError) : Report :=
  { code := 2, stderr := printed ["error: repl failed: ".toList ++ e.message] }

/-- The loop in `run_repl`, with the prompt before every attempt to read a line. -/
def converse (f : Filter) (prompt : Text) (r : Repl) : List (Except FileError Text) → Repl × Report
  | [] => (r, { stdout := prompt })
  | .error e :: _ => (r, Report.followedBy { stdout := prompt } (failure e))
  | .ok line :: later =>
    let said := Report.followedBy { stdout := prompt } (answer f line)
    if (Session.reply line).ends then (r.take line, said)
    else
      let (last, rest) := converse f prompt (r.take line) later
      (last, said.followedBy rest)

/-- The file to write at the end and its new content, if the history has changed. -/
def historyToSave (s : Settings) (r : Repl) : Option (Text × Text) :=
  match s.historyFile with
  | some path => if r.history.changed then some (path, r.history.fileText) else none
  | none => none

/-- What is said at the end, with the reason if the history could not be written. -/
def finish (f : Filter) (s : Settings) (r : Repl) (unsaved : Option FileError) : Text :=
  let complaint := match unsaved with
    | none => []
    | some e =>
      printed ["warning: failed to save history to '".toList ++ s.historyFile.getD [] ++ "': ".toList ++ e.message]
  complaint ++ f.log [.sessionEnded r.session.evaluated r.session.failed]

end Repl

end Calculator
