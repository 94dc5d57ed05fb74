import Mathlib.Logic.Basic
import ProverInput.CommandLine.Program
import ProverInput.Proofs.Text.Reported

/-!
Whole runs. An invocation may take place in a session of its own, and an ending that is an error is
reported with its code, its text and its hint.
-/

namespace ProverInput.CommandLine

theorem find?_eq_some_iff (name : String) (command : Command) :
    Command.find? name = some command ↔ command ∈ Command.all ∧ command.name = name := by
  constructor
  · intro found
    exact ⟨List.mem_of_find?_eq_some found, by simpa using List.find?_some found⟩
  · rintro ⟨listed, rfl⟩
    have distinct : ∀ command ∈ Command.all, Command.find? command.name = some command := by
      decide +kernel
    exact distinct command listed

theorem find?_eq_none_iff (name : String) :
    Command.find? name = none ↔ ∀ command ∈ Command.all, command.name ≠ name := by
  simp [Command.find?]

theorem eq_config_of_unbound {command : Command} (listed : command ∈ Command.all)
    (unbound : command.operation = none) : command = Command.config := by
  have only : ∀ command ∈ Command.all, command.operation = none → command = Command.config := by
    decide
  exact only command listed unbound

theorem ofRequest_of_listed {request : Request} {command : Command}
    (listed : command ∈ Command.all) (named : request.command = some command.name) :
    Task.ofRequest request =
      if request.help then .ok (.commandUsage command)
      else if command.operation.isSome then .ok (.invoke command (request.block.getD "latest"))
      else if request.block.isSome then .error (.blockNotTaken command.name)
      else .ok .showConfig := by
  have notHelp : ∀ command ∈ Command.all, command.name ≠ "help" := by decide
  have found := (find?_eq_some_iff command.name command).mpr ⟨listed, rfl⟩
  simp only [Task.ofRequest, named, notHelp command listed, if_false, found]
  rfl

inductive Asks (request : Request) : Except UsageError Task → Prop
  | noCommand : request.command = none → Asks request (.ok (.usage request.help))
  | helpCommand : request.command = some "help" → Asks request (.ok (.usage true))
  | unknownCommand {name} :
      request.command = some name → name ≠ "help" →
      (∀ command ∈ Command.all, command.name ≠ name) →
      Asks request (.error (.unknownCommand name))
  | commandHelp {command} :
      command ∈ Command.all → request.command = some command.name → request.help = true →
      Asks request (.ok (.commandUsage command))
  | pipeline {command operation} :
      command ∈ Command.all → request.command = some command.name → request.help = false →
      command.operation = some operation →
      Asks request (.ok (.invoke command (request.block.getD "latest")))
  | blockNotTaken {block} :
      request.command = some "config" → request.help = false → request.block = some block →
      Asks request (.error (.blockNotTaken "config"))
  | config :
      request.command = some "config" → request.help = false → request.block = none →
      Asks request (.ok .showConfig)

theorem asks_ofRequest (request : Request) : Asks request (Task.ofRequest request) := by
  cases commanded : request.command with
  | none =>
      have task : Task.ofRequest request = .ok (.usage request.help) := by
        simp only [Task.ofRequest, commanded]
      exact task ▸ .noCommand commanded
  | some name =>
      by_cases help : name = "help"
      · subst help
        have task : Task.ofRequest request = .ok (.usage true) := by
          simp only [Task.ofRequest, commanded, if_true]
        exact task ▸ .helpCommand commanded
      · cases found : Command.find? name with
        | none =>
            have task : Task.ofRequest request = .error (.unknownCommand name) := by
              simp only [Task.ofRequest, commanded, help, if_false, found]
            exact task ▸ .unknownCommand commanded help ((find?_eq_none_iff name).mp found)
        | some command =>
            obtain ⟨listed, rfl⟩ := (find?_eq_some_iff name command).mp found
            rw [ofRequest_of_listed listed commanded]
            cases asked : request.help with
            | true => exact .commandHelp listed commanded asked
            | false =>
                cases bound : command.operation with
                | some operation => exact .pipeline listed commanded asked bound
                | none =>
                    obtain rfl := eq_config_of_unbound listed bound
                    cases held : request.block with
                    | none => exact .config commanded asked held
                    | some block => exact .blockNotTaken commanded asked held

/-- An invocation in a session of its own, in which tokens may be cancelled already. -/
def invokeIn (urls : UrlLibrary) (session : Session) (layer : Layer) (command : Command)
    (block : String) : Outcome :=
  match Pipeline.make command (some (DryRun.backend urls)) with
  | .error cause => { ending := .broken cause }
  | .ok pipeline =>
    let start : Run DryRun := { world := {}, session }
    let (result, finish) := pipeline.invoke layer block ⟨command.name, token⟩ start
    let ending := match result with
      | .ok () => Ending.succeeded
      | .error (.failure cause) => .failed cause
      | .error (.misuse cause) => .broken cause
    { log := finish.session.entries, ending }

theorem invoke_eq (surroundings : Surroundings) (layer : Layer) (command : Command)
    (block : String) :
    invoke surroundings layer command block
      = invokeIn surroundings.urls (session surroundings) layer command block := rfl

theorem backend_of_make {World : Type} {command : Command} {backend : Backend World}
    {pipeline : Pipeline World} (made : Pipeline.make command (some backend) = .ok pipeline) :
    pipeline.backend = backend := by
  unfold Pipeline.make at made
  split at made
  · contradiction
  · rw [← Except.ok.inj made]

/-- A run whose invocation, if there is one, takes place in a session of its own. -/
def runIn (session : Session) (surroundings : Surroundings) (arguments : List String) : Outcome :=
  match Request.ofArguments arguments with
  | .error _ => run surroundings arguments
  | .ok request =>
    match Task.ofRequest request with
    | .ok (.invoke command block) =>
      invokeIn surroundings.urls session (settings surroundings request.settings) command block
    | _ => run surroundings arguments

theorem runIn_session (surroundings : Surroundings) (arguments : List String) :
    runIn (session surroundings) surroundings arguments = run surroundings arguments := by
  unfold runIn
  split
  · rfl
  · rename_i request parsed
    split
    · rename_i command block task
      rw [run, parsed]
      simp only [task, perform, invoke_eq]
    · rfl

structure Complaint where
  code : String
  text : String
  hint : String
  deriving DecidableEq

def Ending.complaint? : Ending → Option Complaint
  | .rejected cause => some ⟨cause.code, cause.text, cause.hint⟩
  | .failed cause => some ⟨cause.code, cause.text, cause.hint⟩
  | .succeeded | .usageShown | .broken _ => none

theorem errorOutput_of_complaint {outcome : Outcome} {complaint : Complaint}
    (ended : outcome.ending.complaint? = some complaint) (named : complaint.code ≠ "")
    (clean : '\x00' ∉ complaint.code.toList) (stamp : String) :
    outcome.errorOutput stamp = String.join (Log.records stamp outcome.log)
      ++ ("[" ++ complaint.code ++ "] " ++ Text.beforeNul complaint.text ++ "\n"
        ++ if complaint.hint = "" then "" else "Hint: " ++ complaint.hint ++ "\n") := by
  have report : outcome.ending.report
      = Text.headline complaint.code complaint.text ++ "\n" ++ Ending.hintLine complaint.hint := by
    cases kind : outcome.ending with
    | rejected cause =>
        rw [kind] at ended
        obtain rfl := Option.some.inj ended
        rfl
    | failed cause =>
        rw [kind] at ended
        obtain rfl := Option.some.inj ended
        rfl
    | succeeded | usageShown | broken cause =>
        rw [kind] at ended
        contradiction
  rw [Outcome.errorOutput, report, Text.headline_eq named clean]
  rfl

end ProverInput.CommandLine
