import Calculator.Arguments
import Calculator.Repl
import Calculator.Text.Cluster

/-!
# A run of the program

Everything that a run reads is given, and everything that it leaves is returned.
-/

namespace Calculator

/-- What a run can read besides its command line. -/
structure Surroundings where
  environment : Variables
  input : List UInt8
  directory : Directory

namespace Program

/-! ## Input -/

/-- The text that bytes encode in UTF-8. -/
def decode (bytes : List UInt8) : Except FileError Text :=
  match String.fromUTF8? ⟨bytes.toArray⟩ with
  | some s => .ok s.toList
  | none => .error .notUnicode

/-- Bytes cut behind every line feed. -/
def byteLines : List UInt8 → List (List UInt8)
  | [] => []
  | b :: rest =>
    if b = 10 then [b] :: byteLines rest
    else
      match byteLines rest with
      | [] => [[b]]
      | line :: later => (b :: line) :: later

/-- A line as it was typed, without its end and with its backspaces carried out. -/
def readLine (bytes : List UInt8) : Except FileError Text := (decode bytes).map fun t => erased ((lines t).headD [])

/-! ## Logging -/

/-- The specification in the environment decides what is logged, or else the verbosity. -/
def filter (vars : Variables) (verbosity : Nat) : Filter :=
  match vars.lookup "RUST_LOG".toList with
  | some spec => .ofSpec spec
  | none => .ofVerbosity verbosity

def complaints (vars : Variables) : Text :=
  printed (((vars.lookup "RUST_LOG".toList).map Filter.complaints).getD [])

/-! ## Commands -/

/-- The names of terminals that cannot edit a line, in any case of their letters. -/
def plainTerminals : List Text := ["dumb".toList, "cons25".toList, "emacs".toList]

/-- The prompt is shown on terminals that cannot edit a line. -/
def prompt (vars : Variables) (s : Settings) : Text :=
  if (vars.lookup "TERM".toList).any fun name => plainTerminals.contains (name.map Char.toLower) then s.prompt
  else []

/-- `run_repl` from start to end. -/
def interact (f : Filter) (w : Surroundings) : Report × Directory :=
  let s := Settings.ofVariables w.environment
  let (begun, greeting) := Repl.start f s w.directory.read
  let (ended, talk) := begun.converse f (prompt w.environment s) ((byteLines w.input).map readLine)
  let said := greeting.followedBy talk
  let close (unsaved : Option FileError) : Report := { said with stderr := said.stderr ++ ended.finish f s unsaved }
  match ended.historyToSave s with
  | none => (close none, w.directory)
  | some (path, content) =>
    match w.directory.write path content with
    | .ok d => (close none, d)
    | .error e => (close (some e), w.directory)

def perform (f : Filter) (w : Surroundings) : Command → Report × Directory
  | .repl => interact f w
  | .eval none => (.batch f none (decode w.input), w.directory)
  | .eval (some path) => (.batch f (some path) (w.directory.read path), w.directory)
  | .convert expression => (.conversion f expression, w.directory)

/-- `run_cli`. Without a command it is interactive. -/
def run (w : Surroundings) (args : List Text) : Except Refusal (Report × Directory) :=
  match Arguments.parse args with
  | .error r => .error r
  | .ok call =>
    let (said, d) := perform (filter w.environment call.verbosity) w (call.command.getD .repl)
    .ok ({ said with stderr := complaints w.environment ++ said.stderr }, d)

end Program

end Calculator
