import ProverInput.Command.Pipeline
import ProverInput.Command.ShowConfig
import ProverInput.CommandLine.Request
import ProverInput.CommandLine.Usage
import ProverInput.Service.DryRun

/-!
The whole program as a function: from the arguments and what surrounds a run to what it prints, what
it logs and how it ends.
-/

namespace ProverInput.CommandLine

inductive Signal where
  | interrupt
  | terminate
  | quit
  deriving DecidableEq, Repr

structure Surroundings where
  environment : String → Option String
  outputWorks : Bool := true
  /-- A signal, and the number of the record after which it arrives. -/
  signal : Option (Signal × Nat) := none
  urls : UrlLibrary := .plain

inductive Ending where
  | succeeded
  | usageShown
  | rejected (cause : UsageError)
  | failed (cause : Failure)
  | broken (cause : Misuse)
  deriving DecidableEq, Repr

namespace Ending

def exitCode : Ending → UInt32
  | .succeeded => 0
  | _ => 1

def hintLine (hint : String) : String :=
  if hint = "" then "" else "Hint: " ++ hint ++ "\n"

def report : Ending → String
  | .succeeded | .usageShown => ""
  | .rejected cause => cause.headline ++ "\n" ++ hintLine cause.hint
  | .failed cause => cause.headline ++ "\n" ++ hintLine cause.hint
  | .broken cause => "Error [E_UNEXPECTED]: " ++ Text.beforeNul cause.text ++ "\n"

end Ending

structure Outcome where
  output : String := ""
  log : List Log.Entry := []
  ending : Ending
  deriving DecidableEq, Repr

def Outcome.errorOutput (stamp : String) (outcome : Outcome) : String :=
  String.join (Log.records stamp outcome.log) ++ outcome.ending.report

/-- Shows a text. A broken output loses it without further notice. -/
def shown (surroundings : Surroundings) (text : String) (ending : Ending) : Outcome where
  output := if surroundings.outputWorks then text else ""
  ending := ending

/-- The settings of a run: those of the flags lie over those of the environment. -/
def settings (surroundings : Surroundings) (given : List (Setting × String)) : Layer :=
  (Layer.ofEnvironment surroundings.environment).overlay (Layer.ofList given)

def token : Token := ⟨0⟩

def session (surroundings : Surroundings) : Session where
  interruption := surroundings.signal.map fun (_, afterRecord) => ⟨afterRecord, token⟩

def invoke (surroundings : Surroundings) (layer : Layer) (command : Command) (block : String) :
    Outcome :=
  match Pipeline.make command (some (DryRun.backend surroundings.urls)) with
  | .error cause => { ending := .broken cause }
  | .ok pipeline =>
    let start : Run DryRun := { world := {}, session := session surroundings }
    let (result, finish) := pipeline.invoke layer block ⟨command.name, token⟩ start
    let ending := match result with
      | .ok () => Ending.succeeded
      | .error (.failure cause) => .failed cause
      | .error (.misuse cause) => .broken cause
    { log := finish.session.entries, ending }

def perform (surroundings : Surroundings) (given : List (Setting × String)) : Task → Outcome
  | .usage asked => shown surroundings usageText (if asked then .succeeded else .usageShown)
  | .commandUsage command => shown surroundings (commandUsageText command) .succeeded
  | .showConfig =>
    match ProverInput.showConfig (settings surroundings given) surroundings.outputWorks with
    | .ok text => { output := text, ending := .succeeded }
    | .error cause => { ending := .failed cause }
  | .invoke command block => invoke surroundings (settings surroundings given) command block

def run (surroundings : Surroundings) (arguments : List String) : Outcome :=
  match Request.ofArguments arguments with
  | .error .version => shown surroundings versionText .succeeded
  | .error (.error cause) => { ending := .rejected cause }
  | .ok request =>
    match Task.ofRequest request with
    | .error cause => { ending := .rejected cause }
    | .ok task => perform surroundings request.settings task

end ProverInput.CommandLine
