import Calculator.Program

/-!
# The command line program

Carries out what the library decides: it reads files and lines, and prints.
-/

namespace Calculator.Main

/-! ## Files -/

/-- Why the system refused a file. -/
def reason : IO.Error → FileError
  | .noFileOrDirectory .. => .notFound
  | .inappropriateType .. => .isDirectory
  | e => .other e.toString.toList

def readFile (path : Text) : IO (Except FileError Text) := do
  try
    return Program.decode (← IO.FS.readBinFile (String.ofList path)).toList
  catch e => return .error (reason e)

def writeFile (path content : Text) : IO (Option FileError) := do
  try
    IO.FS.writeFile (String.ofList path) (String.ofList content)
    return none
  catch e => return some (reason e)

/-! ## Streams -/

def tell (r : Report) : IO Unit := do
  (← IO.getStdout).putStr (String.ofList r.stdout)
  (← IO.getStdout).flush
  (← IO.getStderr).putStr (String.ofList r.stderr)

/-- Reads a line, the latest byte of what is `found` of it first; there is none at the end of the
input. -/
partial def nextLine (found : List UInt8) : IO (Option (Except FileError Text)) := do
  match (← (← IO.getStdin).read 1).toList with
  | [] => return if found.isEmpty then none else some (Program.readLine found.reverse)
  | b :: _ => if b = 10 then return some (Program.readLine (b :: found).reverse) else nextLine (b :: found)

partial def restOfInput (found : ByteArray) : IO ByteArray := do
  let more ← (← IO.getStdin).read 65536
  if more.isEmpty then return found else restOfInput (found ++ more)

/-! ## The interactive calculator -/

/-- Reads and answers lines until the end; the exit code comes along. -/
partial def converse (f : Filter) (prompt : Text) (r : Repl) : IO (Repl × Nat) := do
  tell { stdout := prompt }
  match ← nextLine [] with
  | none => return (r, 0)
  | some (.error e) =>
    tell (Repl.failure e)
    return (r, (Repl.failure e).code)
  | some (.ok line) =>
    tell (Repl.answer f line)
    if (Session.reply line).ends then return (r.take line, 0) else converse f prompt (r.take line)

def interact (f : Filter) (vars : Variables) : IO Nat := do
  let s := Settings.ofVariables vars
  let loaded ← match s.historyFile with
    | some path => readFile path
    | none => pure (.ok [])
  let (begun, greeting) := Repl.start f s fun _ => loaded
  tell greeting
  let prompt := if ← (← IO.getStdin).isTty then s.prompt else Program.prompt vars s
  let (ended, code) ← converse f prompt begun
  let unsaved ← match ended.historyToSave s with
    | some (path, content) => writeFile path content
    | none => pure none
  tell { stderr := ended.finish f s unsaved }
  return code

/-! ## Commands -/

/-- The variables of the environment that matter. -/
def environment : IO Variables := do
  let names := ["INFIX_PROMPT", "INFIX_HISTORY_FILE", "INFIX_NO_BANNER", "RUST_LOG", "TERM"]
  names.filterMapM fun name => do return (← IO.getEnv name).map fun value => (name.toList, value.toList)

/-- Prints a report and gives its exit code. -/
def conclude (r : Report) : IO Nat := do
  tell r
  return r.code

def perform (f : Filter) (vars : Variables) : Command → IO Nat
  | .repl => interact f vars
  | .eval none => do conclude (.batch f none (Program.decode (← restOfInput .empty).toList))
  | .eval (some path) => do conclude (.batch f (some path) (← readFile path))
  | .convert expression => conclude (.conversion f expression)

/-- What is said to a command line that leads to no command. -/
def usage : Refusal → String
  | .help => "Usage: infix [-v] [repl | eval [FILE] | postfix EXPRESSION]"
  | .version => "infix 0.1.0"
  | .unknownArgument => "error: unexpected argument"
  | .invalidCommand => "error: unrecognized subcommand"
  | .missingArgument => "error: a required argument is missing"
  | .unneededValue => "error: unexpected value"
  | .emptyValue => "error: a value is required"

end Calculator.Main

open Calculator in
def main (args : List String) : IO UInt32 := do
  match Arguments.parse (args.map String.toList) with
  | .error r =>
    if r.code = 0 then IO.println (Main.usage r) else IO.eprintln (Main.usage r)
    return r.code.toUInt32
  | .ok call =>
    let vars ← Main.environment
    (← IO.getStderr).putStr (String.ofList (Program.complaints vars))
    return (← Main.perform (Program.filter vars call.verbosity) vars (call.command.getD .repl)).toUInt32
