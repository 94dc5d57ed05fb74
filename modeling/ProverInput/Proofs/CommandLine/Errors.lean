import ProverInput.Proofs.CommandLine.Answer
import ProverInput.Proofs.Configuration.Layering
import ProverInput.Proofs.Configuration.Offences
import ProverInput.Proofs.DryRun.Cancellation

/-!
Errors of whole runs. A run that fails says why, with a code of its own for each kind of error; no
error gets out in any other way.
-/

namespace ProverInput

def reportedCodes : List String :=
  CommandLine.UsageError.codes ++ ["E_CONFIG_VALUE", "E_SERVICE_CREATE", "E_SERVICE_START",
    "E_INVALID_BLOCK_NUMBER", "E_S3_CONFIG_INCOMPLETE", "E_RUN_FAILED", "E_CONFIG_OUTPUT"]

theorem reportedCodes_clean {code : String} (reported : code ∈ reportedCodes) :
    code ≠ "" ∧ code ∉ ["E_CONFIG_TYPE", "E_SERVICE_STOP", "E_UNEXPECTED"] ∧
      '\x00' ∉ code.toList := by
  have all : ∀ code ∈ reportedCodes, code ≠ "" ∧
      code ∉ ["E_CONFIG_TYPE", "E_SERVICE_STOP", "E_UNEXPECTED"] ∧ '\x00' ∉ code.toList := by
    decide
  exact all code reported

namespace Pipeline

theorem make_of_bound {World : Type} {command : Command} {operation : Operation}
    (bound : command.operation = some operation) (backend : Backend World) :
    make command (some backend) = .ok ⟨command, operation, bound, backend⟩ := by
  unfold make
  split
  · rename_i unbound
    rw [bound] at unbound
    contradiction
  · rename_i other otherBound
    obtain rfl : operation = other := Option.some.inj (bound.symm.trans otherBound)
    rfl

theorem DryCourse.code_reported {urls : UrlLibrary} {pipeline : Pipeline DryRun} {layer : Layer}
    {given : Setting → Option String} {blockText : String} {invocation : Invocation}
    {start finish : Run DryRun} {failure : Failure} {calls : List CallRecord}
    (gives : layer.Gives given)
    (course : DryCourse urls pipeline layer blockText invocation start (.error failure) finish
      calls) :
    failure.code ∈ reportedCodes := by
  cases course with
  | configRejected rejected _ =>
      rw [Failure.code, gives.code_of_load rejected]
      decide
  | createFailed _ _ _ => simp [Failure.code, reportedCodes]
  | startCancelled _ _ _ _ => simp [Failure.code, reportedCodes]
  | blockRejected _ _ _ => simp [Failure.code, reportedCodes]
  | storageIncomplete _ _ _ _ => simp [Failure.code, reportedCodes]
  | refused _ _ _ _ => simp [Failure.code, reportedCodes]
  | cutShort _ _ _ _ _ _ _ => simp [Failure.code, reportedCodes]

end Pipeline

namespace CommandLine

/-- An outcome is a success, the usage shown because no command was given, or an error whose report
follows the records of the log. -/
structure Accounted (surroundings : Surroundings) (arguments : List String) (outcome : Outcome) :
    Prop where
  exitCode : outcome.ending.exitCode = 0 ∨ outcome.ending.exitCode = 1
  unbroken : ∀ cause, outcome.ending ≠ .broken cause
  explained : outcome.ending.exitCode = 1 →
    ((∃ items, Reads arguments items ∧ ∀ name, .word name ∉ items) ∧
      outcome.output = (if surroundings.outputWorks then usageText else "") ∧
      ∀ stamp, outcome.errorOutput stamp = "") ∨
    ∃ complaint, outcome.ending.complaint? = some complaint ∧ complaint.code ≠ "" ∧
      complaint.code ∉ ["E_CONFIG_TYPE", "E_SERVICE_STOP", "E_UNEXPECTED"] ∧
      ∀ stamp, outcome.errorOutput stamp = String.join (Log.records stamp outcome.log)
        ++ ("[" ++ complaint.code ++ "] " ++ Text.beforeNul complaint.text ++ "\n"
          ++ if complaint.hint = "" then "" else "Hint: " ++ complaint.hint ++ "\n")

variable {surroundings : Surroundings} {arguments : List String} {outcome : Outcome}

theorem accounted_succeeded (ended : outcome.ending = .succeeded) :
    Accounted surroundings arguments outcome where
  exitCode := Or.inl (congrArg Ending.exitCode ended)
  unbroken := by simp [ended]
  explained := by
    intro failed
    rw [ended] at failed
    contradiction

theorem accounted_complaint {complaint : Complaint}
    (ended : outcome.ending.complaint? = some complaint)
    (reported : complaint.code ∈ reportedCodes) : Accounted surroundings arguments outcome := by
  obtain ⟨named, category, clean⟩ := reportedCodes_clean reported
  constructor
  case exitCode =>
    cases outcome.ending with
    | succeeded => exact Or.inl rfl
    | _ => exact Or.inr rfl
  case unbroken =>
    intro cause broken
    rw [broken] at ended
    contradiction
  case explained =>
    intro _
    exact Or.inr ⟨complaint, ended, named, category, errorOutput_of_complaint ended named clean⟩

theorem accounted_rejected (cause : UsageError) :
    Accounted surroundings arguments { ending := .rejected cause } :=
  accounted_complaint rfl (List.mem_append_left _ cause.code_mem)

theorem holds_ofArguments {request : Request} (read : Request.ofArguments arguments = .ok request) :
    request.Holds (Item.ofArguments arguments) := by
  rw [Request.ofArguments] at read
  rcases Request.holds_empty.foldlM (Item.ofArguments arguments) with ⟨next, found, holds, _⟩ |
    ⟨halt, _, _, _, found, _⟩
  · obtain rfl := Except.ok.inj (found.symm.trans read)
    exact holds
  · rw [read] at found
    contradiction

theorem accounted_usageShown {request : Request}
    (read : Request.ofArguments arguments = .ok request) (commanded : request.command = none) :
    Accounted surroundings arguments (shown surroundings usageText .usageShown) where
  exitCode := Or.inr rfl
  unbroken := by simp [shown]
  explained := by
    intro _
    have absent := (holds_ofArguments read).no_command.mp commanded
    exact Or.inl ⟨⟨_, reads_ofArguments arguments, absent⟩, rfl, fun _ => String.empty_append⟩

theorem accounted_invokeIn {command : Command} {operation : Operation} {layer : Layer}
    {given : Setting → Option String} (bound : command.operation = some operation)
    (gives : layer.Gives given) (urls : UrlLibrary) (session : Session) (block : String) :
    Accounted surroundings arguments (invokeIn urls session layer command block) := by
  rw [invokeIn, Pipeline.make_of_bound bound]
  simp only
  obtain ⟨result, finish, calls, course⟩ := Pipeline.exists_invokeCourse
    ⟨command, operation, bound, DryRun.backend urls⟩ layer block ⟨command.name, token⟩
    { world := {}, session }
  rw [course.invoke_eq rfl]
  cases result with
  | ok _ => exact accounted_succeeded rfl
  | error failure => exact accounted_complaint rfl ((course.dryCourse rfl).code_reported gives)

theorem accounted_showConfig (given : List (Setting × String)) :
    Accounted surroundings arguments (perform surroundings given .showConfig) := by
  rw [perform, showConfig]
  cases loaded : Configuration.load (settings surroundings given) with
  | error cause =>
      refine accounted_complaint rfl ?_
      have code := (gives_settings_reverse surroundings given).code_of_load loaded
      simp only [Failure.code, code]
      decide
  | ok configuration =>
      cases surroundings.outputWorks with
      | true => exact accounted_succeeded rfl
      | false => exact accounted_complaint rfl (by decide)

theorem accounted_runIn (session : Session) (surroundings : Surroundings)
    (arguments : List String) :
    Accounted surroundings arguments (runIn session surroundings arguments) := by
  rw [runIn, run]
  cases read : Request.ofArguments arguments with
  | error halt =>
      cases halt with
      | version => exact accounted_succeeded rfl
      | error cause => exact accounted_rejected cause
  | ok request =>
      have asks := asks_ofRequest request
      simp only
      cases task : Task.ofRequest request with
      | error cause => exact accounted_rejected cause
      | ok task =>
          rw [task] at asks
          cases asks with
          | noCommand commanded =>
              cases asked : request.help with
              | true => exact accounted_succeeded rfl
              | false => exact accounted_usageShown read commanded
          | helpCommand commanded => exact accounted_succeeded rfl
          | commandHelp listed commanded asked => exact accounted_succeeded rfl
          | pipeline listed commanded unasked bound =>
              exact accounted_invokeIn bound (gives_settings_reverse surroundings _)
                surroundings.urls session _
          | config commanded unasked held => exact accounted_showConfig request.settings

theorem settings_texts (surroundings : Surroundings) (given : List (Setting × String)) :
    (settings surroundings given).tree.isObject = true ∧ ∀ setting : Setting,
      (settings surroundings given).tree.find? setting.path = none ∨
        ∃ value, (settings surroundings given).tree.find? setting.path = some (.text value) := by
  have gives := gives_settings_reverse surroundings given
  have clear := gives.clear .dataDir
  rw [Setting.path_eq] at clear
  refine ⟨clear.1, ?_⟩
  intro setting
  rw [gives.found setting]
  generalize (given.reverse.lookup setting).or _ = text
  cases text with
  | none => exact Or.inl rfl
  | some value => exact Or.inr ⟨value, rfl⟩

theorem stop_returns {urls : UrlLibrary} {pipeline : Pipeline DryRun}
    (dry : pipeline.backend = DryRun.backend urls) {layer : Layer} {blockText : String}
    {invocation : Invocation} {start : Run DryRun}
    (idle : start.phase = .idle)
    (passed : (pipeline.setup layer blockText invocation start).1 = .ok ()) :
    (pipeline.recorded.invoke layer blockText invocation (start.withCalls [])).2.calls.filter
      (·.call = .stop) = [⟨.stop, .returned⟩] := by
  obtain ⟨result, finish, calls, course⟩ :=
    Pipeline.exists_invokeCourse pipeline layer blockText invocation start
  rw [course.recorded_invoke_eq idle []]
  exact ((course.dryCourse dry).of_stop_called (course.stop_called idle passed)).2.1

/-- Every run accounts for its errors, also if tokens are cancelled before or during the invocation.
The settings of a run hold texts only, and stopping the service never fails once setup is done. -/
theorem run_accounts_for_errors :
    (∀ surroundings arguments,
      Accounted surroundings arguments (run surroundings arguments) ∧
      (∀ session, Accounted surroundings arguments (runIn session surroundings arguments)) ∧
      ∀ given, (settings surroundings given).tree.isObject = true ∧ ∀ setting : Setting,
        (settings surroundings given).tree.find? setting.path = none ∨
          ∃ value, (settings surroundings given).tree.find? setting.path = some (.text value)) ∧
    ∀ (urls : UrlLibrary) (pipeline : Pipeline DryRun), pipeline.backend = DryRun.backend urls →
      ∀ layer blockText invocation start, start.phase = .idle →
        (pipeline.setup layer blockText invocation start).1 = .ok () →
        (pipeline.recorded.invoke layer blockText invocation (start.withCalls [])).2.calls.filter
          (·.call = .stop) = [⟨.stop, .returned⟩] := by
  constructor
  · intro surroundings arguments
    refine ⟨?_, fun session => accounted_runIn session surroundings arguments,
      settings_texts surroundings⟩
    rw [← runIn_session]
    exact accounted_runIn _ surroundings arguments
  · intro urls pipeline dry layer blockText invocation start idle passed
    exact stop_returns dry idle passed

theorem run_accounts_for_errors_offline :
    let pipeline : Pipeline DryRun := ⟨.preflight, .preflight, rfl, DryRun.backend .plain⟩
    let start : Run DryRun := { world := {} }
    (pipeline.setup {} "0x10" ⟨"preflight", token⟩ start).1 = .ok () ∧
      (pipeline.recorded.invoke {} "0x10" ⟨"preflight", token⟩ (start.withCalls [])).2.calls.filter
        (·.call = .stop) = [⟨.stop, .returned⟩] ∧
      (run { environment := fun _ => none } ["preflight", "-b", "0x10"]).ending.exitCode = 1 ∧
      Accounted { environment := fun _ => none } ["preflight", "-b", "0x10"]
        (run { environment := fun _ => none } ["preflight", "-b", "0x10"]) := by
  intro pipeline start
  have passed : (pipeline.setup {} "0x10" ⟨"preflight", token⟩ start).1 = .ok () := by
    decide +kernel
  refine ⟨passed, run_accounts_for_errors.2 .plain pipeline rfl {} "0x10" _ start rfl passed, ?_,
    (run_accounts_for_errors.1 _ _).1⟩
  decide +kernel

end CommandLine

end ProverInput
