import ProverInput.CommandLine.Program
import Std.Time.Format

/-!
The program itself: reads the arguments and the environment, and prints what the run gives.
-/

namespace ProverInput.CommandLine

def timeStamp : IO String := do
  let now ← Std.Time.Timestamp.now
  return (Std.Time.DateTime.ofTimestamp now .UTC).format "uuuu-MM-dd'T'HH:mm:ss.SSS'Z'"

def settingVariables : IO (List (String × String)) := do
  Setting.all.filterMapM fun setting => do
    return (← IO.getEnv setting.envVar).map fun value => (setting.envVar, value)

def printOutput (outcome : Outcome) : IO Bool := do
  try
    let output ← IO.getStdout
    output.putStr outcome.output
    output.flush
    return true
  catch _ => return false

/-- Runs the program. A run whose output turns out to be broken is judged again as such. -/
def program (arguments : List String) : IO UInt32 := do
  let present ← settingVariables
  let surroundings : Surroundings := { environment := fun name => present.lookup name }
  let first := run surroundings arguments
  let outcome :=
    if ← printOutput first then first
    else run { surroundings with outputWorks := false } arguments
  let errors ← IO.getStderr
  errors.putStr (outcome.errorOutput (← timeStamp))
  errors.flush
  return outcome.ending.exitCode

end ProverInput.CommandLine

def main (arguments : List String) : IO UInt32 :=
  ProverInput.CommandLine.program arguments
