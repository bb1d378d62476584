import Calculator.Directory
import Calculator.Log.Filter
import Calculator.Log.Trace
import Calculator.Session

/-!
# Reports

What a run prints, what it writes to the error stream, and its exit code. This module holds the reports
of a batch and of a conversion.
-/

namespace Calculator

structure Report where
  code : Nat := 0
  stdout : Text := []
  stderr : Text := []
deriving DecidableEq, Repr

namespace Report

def followedBy (a b : Report) : Report := ⟨b.code, a.stdout ++ b.stdout, a.stderr ++ b.stderr⟩

/-! ## Batches -/

def batchEvents (source : Text) : List Event :=
  (expressions source).flatMap evaluationEvents ++
    [.batchEnded (Batch.ofText source).out.length (Batch.ofText source).failed]

/-- Where the lines of a batch come from. -/
def sourceName : Option Text → Text
  | none => "from stdin".toList
  | some path => "'".toList ++ path ++ "'".toList

/-- `run_eval`. The exit code is 2 if the lines could not be read, and 1 if one of them had no value. -/
def batch (f : Filter) (input : Option Text) : Except FileError Text → Report
  | .error e =>
    { code := 2
      stderr := printed ["error: failed to read ".toList ++ sourceName input ++ ": ".toList ++ e.message] }
  | .ok source =>
    { code := if (Batch.ofText source).failed = 0 then 0 else 1
      stdout := printed (Batch.ofText source).out
      stderr := f.log (batchEvents source) }

/-! ## Conversions -/

/-- `run_postfix`. -/
def conversion (f : Filter) (expression : Text) : Report :=
  match toPostfix expression with
  | .ok postfixText => { stdout := printed [postfixText], stderr := f.log (conversionEvents expression) }
  | .error e =>
    { code := 1
      stderr := f.log (conversionEvents expression) ++ printed ["Invalid expression: ".toList ++ e.message] }

end Report

end Calculator
