import ProverInput.Proofs.CommandLine.Errors
import ProverInput.Proofs.DryRun.Reports

/-!
The record of a failure. A command that is bound to an operation leaves exactly one, as the last
entry of its log; showing the configuration can fail too and leaves none.
-/

namespace ProverInput

namespace Log

def failures (log : List Entry) : List Entry :=
  log.filter (·.event.name = "command.failed")

@[simp] theorem failures_nil : failures [] = [] := rfl

theorem failures_append (first second : List Entry) :
    failures (first ++ second) = failures first ++ failures second :=
  List.filter_append ..

end Log

def Failure.phase (failure : Failure) : Phase :=
  if failure.stage ∈ Stage.setup then .setupFailed else .failed

def Failure.event (command : Command) (failure : Failure) : Log.Event :=
  ⟨.error, "command.failed", [("command", command.name), ("stage", failure.stage.name),
    ("state", failure.phase.name), ("code", failure.code), ("error", failure.text)]⟩

/-- A failure is the last that a log tells, it is written, and no other one was told before. -/
def Log.RecordsOnce (log : List Log.Entry) (command : Command) (failure : Failure) : Prop :=
  ∃ earlier format, Log.failures earlier = [] ∧
    log = earlier ++ [⟨.command, failure.event command, some format⟩]

namespace Session

def Unfailing (session : Session) : Prop :=
  Log.failures session.entries = []

variable {session : Session}

theorem Unfailing.offer (unfailing : session.Unfailing) {offers : List Offer}
    (others : ∀ offer ∈ offers, offer.event.name ≠ "command.failed") :
    (session.offer offers).Unfailing := by
  rw [Unfailing, offer_entries, Log.failures_append, unfailing, List.nil_append]
  exact session.filter_named_eq_nil others

theorem Unfailing.report (unfailing : session.Unfailing) {event : Log.Event}
    (other : event.name ≠ "command.failed") (origin : Log.Origin) :
    (session.report origin event).Unfailing := by
  have offered : ∀ offer ∈ [(⟨origin, event⟩ : Offer)], offer.event.name ≠ "command.failed" := by
    simpa using other
  exact unfailing.offer offered

theorem Unfailing.called {World α : Type} {run after : Run World}
    {procedure : Procedure World α} {result : Except Fault α}
    (unfailing : run.session.Unfailing)
    (reports : Procedure.Reports (·.name ≠ "command.failed") procedure)
    (ended : run.called procedure = (result, after)) : after.session.Unfailing := by
  obtain ⟨offers, others, same⟩ := perform_reports (reports run.world) run.session
  have session : (run.called procedure).2.session = run.session.offer offers := same
  rw [ended] at session
  rw [session]
  exact unfailing.offer others

end Session

namespace Pipeline

variable {World : Type} {pipeline : Pipeline World} {layer : Layer} {blockText : String}
  {invocation : Invocation} {start finish : Run World} {calls : List CallRecord}

theorem unfailing_configured (unfailing : start.session.Unfailing)
    (configuration : Configuration) :
    (pipeline.configured configuration blockText start).session.Unfailing := by
  have adopted : (start.session.adopt configuration.log.level
      configuration.log.format).Unfailing := unfailing
  exact adopted.report (by simp) .command

theorem SetupCourse.unfailing {result : Except Failure Unit}
    (reports : pipeline.backend.Reports (·.name ≠ "command.failed"))
    (unfailing : start.session.Unfailing)
    (course : SetupCourse pipeline layer blockText invocation start result finish calls) :
    finish.session.Unfailing := by
  have created {configuration : Configuration} {present : Except Fault Bool} {after : Run World}
      (creation : (pipeline.configured configuration blockText start).called
        (pipeline.backend.create configuration) = (present, after)) : after.session.Unfailing :=
    (unfailing_configured unfailing configuration).called (reports.create configuration) creation
  have started {before after : Run World} {ended : Except Fault Unit}
      (starting : (pipeline.serviceCreated before).called (pipeline.backend.start invocation) =
        (ended, after)) (still : before.session.Unfailing) : after.session.Unfailing := by
    have present : (pipeline.serviceCreated before).session.Unfailing :=
      still.report (by simp) .command
    exact present.called (reports.start invocation) starting
  cases course with
  | configRejected _ => exact unfailing
  | createFailed _ creation => exact created creation
  | serviceAbsent _ creation => exact created creation
  | startFailed _ creation starting => exact started starting (created creation)
  | blockRejected _ creation starting _ =>
      exact (started starting (created creation)).report (by simp) .command
  | storageIncomplete _ creation starting _ _ =>
      exact ((started starting (created creation)).report (by simp) .command).report (by simp)
        .command
  | ready _ creation starting _ _ =>
      exact ((started starting (created creation)).report (by simp) .command).report (by simp)
        .command

theorem SetupCourse.unfailing_stopped {ready ran stopped : Run World} {block : BlockRef}
    {performed stopResult : Except Fault Unit} {phase : Phase}
    (reports : pipeline.backend.Reports (·.name ≠ "command.failed"))
    (unfailing : start.session.Unfailing)
    (course : SetupCourse pipeline layer blockText invocation start (.ok ()) ready calls)
    (performing : (pipeline.commandRun block ready).called
      (pipeline.backend.perform pipeline.operation invocation block) = (performed, ran))
    (stopping : (ran.enter phase).called (pipeline.backend.stop invocation) =
      (stopResult, stopped)) : stopped.session.Unfailing := by
  have prepared := course.unfailing reports unfailing
  have begun : (pipeline.commandRun block ready).session.Unfailing :=
    prepared.report (by simp) .command
  have still : ran.session.Unfailing :=
    begun.called (reports.perform pipeline.operation invocation block) performing
  have entered : (ran.enter phase).session.Unfailing := still
  exact entered.called (reports.stop invocation) stopping

theorem recordsOnce_commandFailed {before : Run World} {failure : Failure}
    (unfailing : before.session.Unfailing) (left : before.phase = failure.phase) :
    Log.RecordsOnce (pipeline.commandFailed failure before).session.entries pipeline.command
      failure := by
  have written : Log.Severity.error.reaches before.session.threshold = true := by
    cases before.session.threshold <;> rfl
  refine ⟨before.session.entries, before.session.format, unfailing, ?_⟩
  simp only [commandFailed, Run.report, Session.report_entries, Session.entryOf, written, if_true,
    Failure.event, left]

theorem InvokeCourse.records_failure {result : Except Failure Unit}
    (reports : pipeline.backend.Reports (·.name ≠ "command.failed"))
    (unfailing : start.session.Unfailing)
    (course : InvokeCourse pipeline layer blockText invocation start result finish calls) :
    match result with
    | .ok () => finish.session.Unfailing
    | .error failure => Log.RecordsOnce finish.session.entries pipeline.command failure := by
  cases course with
  | @setupFailed failure after _ setupCourse =>
      have prepared := setupCourse.unfailing reports unfailing
      have still : (after.enter .setupFailed).session.Unfailing := prepared
      have left : failure.phase = .setupFailed := if_pos setupCourse.stage_mem
      exact recordsOnce_commandFailed still left.symm
  | completed setupCourse _ performing stopping =>
      have still := setupCourse.unfailing_stopped reports unfailing performing stopping
      exact (still.report (by simp) .command).report (by simp) .command
  | stopFailed setupCourse _ performing stopping =>
      have still := setupCourse.unfailing_stopped reports unfailing performing stopping
      exact recordsOnce_commandFailed (still.report (by simp) .command) rfl
  | runFailed setupCourse _ performing stopping =>
      have still := setupCourse.unfailing_stopped reports unfailing performing stopping
      exact recordsOnce_commandFailed (still.report (by simp) .command) rfl
  | bothFailed setupCourse _ performing stopping =>
      have still := setupCourse.unfailing_stopped reports unfailing performing stopping
      exact recordsOnce_commandFailed (still.report (by simp) .command) rfl

end Pipeline

namespace DryRun

theorem backend_reports_no_failure (urls : UrlLibrary) :
    (backend urls).Reports (·.name ≠ "command.failed") := by
  refine (backend_reports urls).mono ?_
  intro event member failed
  have unlisted : "command.failed" ∉ eventNames := by decide
  exact unlisted (failed ▸ member)

end DryRun

namespace CommandLine

/-- The command that arguments ask for, if they can be read and name one. -/
def commandAsked? (arguments : List String) : Option Command :=
  match Request.ofArguments arguments with
  | .ok request => request.command.bind Command.find?
  | .error _ => none

structure FailuresRecorded (arguments : List String) (outcome : Outcome) : Prop where
  /-- A failure is that of a command. It is recorded if the command is bound to an operation; if
  not, nothing is logged at all. -/
  failed : ∀ failure, outcome.ending = .failed failure →
    ∃ command, commandAsked? arguments = some command ∧
      (command.operation ≠ none → Log.RecordsOnce outcome.log command failure) ∧
      (command.operation = none →
        outcome.log = [] ∧ (failure.stage = .config ∨ failure.stage = .output))
  unfailed : (∀ failure, outcome.ending ≠ .failed failure) → Log.failures outcome.log = []

variable {surroundings : Surroundings} {arguments : List String} {outcome : Outcome}

theorem commandAsked?_of_named {request : Request} {command : Command}
    (read : Request.ofArguments arguments = .ok request) (listed : command ∈ Command.all)
    (commanded : request.command = some command.name) :
    commandAsked? arguments = some command := by
  simp only [commandAsked?, read, commanded, Option.bind_some]
  exact (find?_eq_some_iff command.name command).mpr ⟨listed, rfl⟩

theorem FailuresRecorded.told {command : Command} {failure : Failure}
    (recorded : FailuresRecorded arguments outcome)
    (asked : commandAsked? arguments = some command) (ended : outcome.ending = .failed failure) :
    (command.operation ≠ none → Log.RecordsOnce outcome.log command failure) ∧
      (command.operation = none → outcome.log = []) := by
  obtain ⟨other, alsoAsked, told, silent⟩ := recorded.failed failure ended
  obtain rfl : command = other := Option.some.inj (asked.symm.trans alsoAsked)
  exact ⟨told, fun unbound => (silent unbound).1⟩

theorem failuresRecorded_of_failed {command : Command} {failure : Failure}
    (asked : commandAsked? arguments = some command) (ended : outcome.ending = .failed failure)
    (told : command.operation ≠ none → Log.RecordsOnce outcome.log command failure)
    (silent : command.operation = none →
      outcome.log = [] ∧ (failure.stage = .config ∨ failure.stage = .output)) :
    FailuresRecorded arguments outcome where
  failed := by
    intro other failed
    obtain rfl : failure = other := Ending.failed.inj (ended.symm.trans failed)
    exact ⟨command, asked, told, silent⟩
  unfailed := fun unfailed => absurd ended (unfailed failure)

theorem failuresRecorded_of_unfailed (ended : ∀ failure, outcome.ending ≠ .failed failure)
    (unlogged : outcome.log = []) : FailuresRecorded arguments outcome where
  failed := fun failure failed => absurd failed (ended failure)
  unfailed := fun _ => by rw [unlogged, Log.failures_nil]

theorem failuresRecorded_invokeIn {command : Command} {operation : Operation}
    (asked : commandAsked? arguments = some command)
    (bound : command.operation = some operation) {session : Session}
    (unfailing : session.Unfailing) (urls : UrlLibrary) (layer : Layer) (block : String) :
    FailuresRecorded arguments (invokeIn urls session layer command block) := by
  rw [invokeIn, Pipeline.make_of_bound bound]
  simp only
  obtain ⟨result, finish, calls, course⟩ := Pipeline.exists_invokeCourse
    ⟨command, operation, bound, DryRun.backend urls⟩ layer block ⟨command.name, token⟩
    { world := {}, session }
  have recorded := course.records_failure (DryRun.backend_reports_no_failure urls) unfailing
  rw [course.invoke_eq rfl]
  cases result with
  | ok _ => exact ⟨fun failure failed => by contradiction, fun _ => recorded⟩
  | error failure =>
      refine failuresRecorded_of_failed asked rfl (fun _ => recorded) ?_
      intro unbound
      rw [bound] at unbound
      contradiction

theorem failuresRecorded_showConfig (asked : commandAsked? arguments = some .config)
    (given : List (Setting × String)) :
    FailuresRecorded arguments (perform surroundings given .showConfig) := by
  have silent {failure : Failure} (stage : failure.stage = .config ∨ failure.stage = .output) :
      FailuresRecorded arguments { ending := .failed failure } :=
    failuresRecorded_of_failed asked rfl (absurd rfl) fun _ => ⟨rfl, stage⟩
  rw [perform, showConfig]
  cases Configuration.load (settings surroundings given) with
  | error cause => exact silent (Or.inl rfl)
  | ok configuration =>
      cases surroundings.outputWorks with
      | true => exact failuresRecorded_of_unfailed (by simp) rfl
      | false => exact silent (Or.inr rfl)

theorem failuresRecorded_runIn (session : Session) (unfailing : session.Unfailing)
    (surroundings : Surroundings) (arguments : List String) :
    FailuresRecorded arguments (runIn session surroundings arguments) := by
  rw [runIn, run]
  cases read : Request.ofArguments arguments with
  | error halt =>
      cases halt with
      | version => exact failuresRecorded_of_unfailed (by simp [shown]) rfl
      | error cause => exact failuresRecorded_of_unfailed (by simp) rfl
  | ok request =>
      have asks := asks_ofRequest request
      simp only
      cases task : Task.ofRequest request with
      | error cause => exact failuresRecorded_of_unfailed (by simp) rfl
      | ok task =>
          rw [task] at asks
          cases asks with
          | noCommand _ =>
              refine failuresRecorded_of_unfailed ?_ rfl
              cases request.help <;> simp [perform, shown]
          | helpCommand _ => exact failuresRecorded_of_unfailed (by simp [perform, shown]) rfl
          | commandHelp _ _ _ => exact failuresRecorded_of_unfailed (by simp [perform, shown]) rfl
          | pipeline listed commanded _ bound =>
              have asked := commandAsked?_of_named read listed commanded
              exact failuresRecorded_invokeIn asked bound unfailing _ _ _
          | config commanded _ _ =>
              have listed : Command.config ∈ Command.all := by decide
              have asked := commandAsked?_of_named read listed commanded
              exact failuresRecorded_showConfig asked _

/-- Every failure of a command that is bound to an operation is recorded exactly once, whatever the
stage that failed, also if tokens are cancelled before or during the invocation. A failure to show
the configuration is reported without a record. -/
theorem run_records_failures (surroundings : Surroundings) (arguments : List String) :
    FailuresRecorded arguments (run surroundings arguments) ∧
      ∀ session : Session, session.Unfailing →
        FailuresRecorded arguments (runIn session surroundings arguments) := by
  constructor
  · rw [← runIn_session]
    exact failuresRecorded_runIn (session surroundings) Log.failures_nil surroundings arguments
  · intro session unfailing
    exact failuresRecorded_runIn session unfailing surroundings arguments

/-- The same chain id fails two commands in the same way, and only one of them records it. Output
that does not work is no reason for a record either, while a start with a cancelled token is. -/
theorem run_records_failures_chain_id :
    let surroundings : Surroundings := { environment := fun _ => none }
    let broken : Surroundings := { environment := fun _ => none, outputWorks := false }
    let cancelled : Session := { cancelled := [token] }
    (run surroundings ["--chain-id", "0", "config"]).ending = .failed (.config .chainIdRejected) ∧
      (run surroundings ["--chain-id", "0", "config"]).log = [] ∧
      (run surroundings ["--chain-id", "0", "prepare"]).ending =
        .failed (.config .chainIdRejected) ∧
      Log.RecordsOnce (run surroundings ["--chain-id", "0", "prepare"]).log .prepare
        (.config .chainIdRejected) ∧
      (run broken ["config"]).ending = .failed .output ∧ (run broken ["config"]).log = [] ∧
      Log.RecordsOnce (runIn cancelled surroundings ["prepare"]).log .prepare
        (.start .cancelled) := by
  intro surroundings broken cancelled
  have shown : (run surroundings ["--chain-id", "0", "config"]).ending =
      .failed (.config .chainIdRejected) := by decide +kernel
  have prepared : (run surroundings ["--chain-id", "0", "prepare"]).ending =
      .failed (.config .chainIdRejected) := by decide +kernel
  have lost : (run broken ["config"]).ending = .failed .output := by decide +kernel
  have unstarted : (runIn cancelled surroundings ["prepare"]).ending =
      .failed (.start .cancelled) := by decide +kernel
  refine ⟨shown, ?_, prepared, ?_, lost, ?_, ?_⟩
  · have asked : commandAsked? ["--chain-id", "0", "config"] = some .config := by decide +kernel
    exact ((run_records_failures _ _).1.told asked shown).2 rfl
  · have asked : commandAsked? ["--chain-id", "0", "prepare"] = some .prepare := by
      decide +kernel
    exact ((run_records_failures _ _).1.told asked prepared).1 (by decide)
  · have asked : commandAsked? ["config"] = some .config := by decide +kernel
    exact ((run_records_failures _ _).1.told asked lost).2 rfl
  · have asked : commandAsked? ["prepare"] = some .prepare := by decide +kernel
    exact (((run_records_failures _ _).2 cancelled rfl).told asked unstarted).1 (by decide)

end CommandLine

end ProverInput
