import ProverInput.Proofs.Command.Action
import ProverInput.Proofs.Configuration.Concealment
import ProverInput.Service.DryRun

/-!
Two runs side by side. Runs that differ in secrets only stay alike: whatever a command does with a
dry run ends in the same result and offers the same events in both.
-/

namespace ProverInput

variable {ε δ α β : Type}

namespace DryRun

def conceal (service : DryRun) : DryRun :=
  { service with configuration := service.configuration.conceal }

end DryRun

namespace Run

def conceal (run : Run DryRun) : Run DryRun :=
  { run with
    context.configuration := run.context.configuration.conceal
    world := run.world.conceal }

def Alike (run other : Run DryRun) : Prop :=
  run.conceal = other.conceal

variable {run other : Run DryRun}

theorem Alike.phase (alike : run.Alike other) : run.phase = other.phase :=
  congrArg (·.phase) alike

theorem Alike.session (alike : run.Alike other) : run.session = other.session :=
  congrArg (·.session) alike

theorem Alike.block (alike : run.Alike other) : run.context.block = other.context.block :=
  congrArg (·.context.block) alike

theorem Alike.configuration (alike : run.Alike other) :
    run.context.configuration.conceal = other.context.configuration.conceal :=
  congrArg (·.context.configuration) alike

theorem Alike.world (alike : run.Alike other) : run.world.conceal = other.world.conceal :=
  congrArg (·.world) alike

theorem Alike.serve (alike : run.Alike other) {service otherService : DryRun}
    (same : service.conceal = otherService.conceal) (session : Session) :
    Alike { run with world := service, session } { other with world := otherService, session } := by
  rw [Alike, conceal, conceal, same]
  exact congrArg (fun run : Run DryRun => { run with world := otherService.conceal, session }) alike

theorem Alike.configure (alike : run.Alike other) {configuration otherConfiguration : Configuration}
    (same : configuration.conceal = otherConfiguration.conceal) (session : Session) :
    Alike { run with context.configuration := configuration, session }
      { other with context.configuration := otherConfiguration, session } := by
  rw [Alike, conceal, conceal, same]
  exact congrArg (fun run : Run DryRun =>
    { run with context.configuration := otherConfiguration.conceal, session }) alike

end Run

namespace Procedure

def Alike (first second : Procedure DryRun α) : Prop :=
  ∀ (session : Session) (service other : DryRun), service.conceal = other.conceal →
    (session.perform (first service)).1.1 = (session.perform (second other)).1.1 ∧
      (session.perform (first service)).1.2.conceal
        = (session.perform (second other)).1.2.conceal ∧
      (session.perform (first service)).2 = (session.perform (second other)).2

abbrev Blind (procedure : Procedure DryRun α) : Prop :=
  Alike procedure procedure

theorem Alike.bind {first second : Procedure DryRun α} {next others : α → Procedure DryRun β}
    (alike : Alike first second) (later : ∀ value, Alike (next value) (others value)) :
    Alike (first >>= next) (second >>= others) := by
  intro session service other same
  obtain ⟨sameResult, sameService, sameSession⟩ := alike session service other same
  rw [perform_bind, perform_bind]
  generalize session.perform (first service) = ended at *
  generalize session.perform (second other) = otherEnded at *
  rcases ended with ⟨⟨result, after⟩, rest⟩
  rcases otherEnded with ⟨⟨otherResult, otherAfter⟩, otherRest⟩
  obtain rfl : result = otherResult := sameResult
  obtain rfl : rest = otherRest := sameSession
  cases result with
  | error fault => exact ⟨rfl, sameService, rfl⟩
  | ok value => exact later value rest after otherAfter sameService

theorem blind_checkpoint (token : Token) : Blind (checkpoint token) := by
  intro session service other same
  exact ⟨rfl, same, rfl⟩

theorem blind_report (severity : Log.Severity) (name : String) (fields : List (String × String)) :
    Blind (report severity name fields) := by
  intro session service other same
  exact ⟨rfl, same, rfl⟩

theorem blind_pure (value : α) : Blind (pure value) := by
  intro session service other same
  exact ⟨rfl, same, rfl⟩

theorem blind_throw (fault : Fault) : Blind (throw fault : Procedure DryRun α) := by
  intro session service other same
  exact ⟨rfl, same, rfl⟩

theorem alike_set {service other : DryRun} (same : service.conceal = other.conceal) :
    Alike (set service) (set other) := by
  intro session _ _ _
  exact ⟨rfl, same, rfl⟩

theorem alike_get_bind {next others : DryRun → Procedure DryRun α}
    (alike : ∀ service other : DryRun, service.conceal = other.conceal →
      Alike (next service) (others other)) :
    Alike (get >>= next) (get >>= others) := by
  intro session service other same
  exact alike service other same session service other same

theorem blind_forM {step : α → Procedure DryRun Unit} (blind : ∀ item, Blind (step item))
    (items : List α) : Blind (items.forM step) := by
  induction items with
  | nil => exact blind_pure ()
  | cons item rest ih => exact (blind item).bind fun _ => ih

end Procedure

namespace DryRun

open Procedure (blind_checkpoint blind_report blind_pure blind_throw alike_set alike_get_bind)

variable {configuration other : Configuration}

theorem alike_create (urls : UrlLibrary) (same : configuration.conceal = other.conceal) :
    Procedure.Alike (create urls configuration) (create urls other) := by
  have url : configuration.chain.rpcUrl = other.chain.rpcUrl := congrArg (·.chain.rpcUrl) same
  unfold create ofConfiguration
  rw [url]
  by_cases offline : other.chain.rpcUrl = ""
  · simp only [offline, if_true]
    refine (alike_set ?_).bind fun _ => blind_pure true
    simp only [conceal, same]
  · simp only [offline, if_false]
    cases Endpoint.parse other.chain.rpcUrl urls with
    | error cause => exact blind_throw _
    | ok endpoint =>
        refine (alike_set ?_).bind fun _ => blind_pure true
        simp only [conceal, same]

theorem parts_of_conceal {service other : DryRun} (same : service.conceal = other.conceal) :
    service.running = other.running ∧ service.endpoint = other.endpoint ∧
      service.configuration.conceal = other.configuration.conceal :=
  ⟨congrArg (·.running) same, congrArg (·.endpoint) same, congrArg (·.configuration) same⟩

theorem blind_start (invocation : Invocation) : Procedure.Blind (start invocation) := by
  apply alike_get_bind
  intro service other same
  obtain ⟨running, endpoint, configuration⟩ := parts_of_conceal same
  rw [running, endpoint]
  cases other.running with
  | true => exact blind_pure ()
  | false =>
      refine (blind_checkpoint _).bind fun _ => (alike_set ?_).bind fun _ => blind_report _ _ _
      simp only [conceal, configuration]

theorem blind_stop (invocation : Invocation) : Procedure.Blind (stop invocation) := by
  apply alike_get_bind
  intro service other same
  obtain ⟨running, endpoint, configuration⟩ := parts_of_conceal same
  rw [running]
  cases other.running with
  | false => exact blind_throw _
  | true =>
      refine (alike_set ?_).bind fun _ => blind_report _ _ _
      simp only [conceal, configuration, endpoint]

theorem stageFields_conceal (configuration : Configuration) (stage : Operation)
    (block : BlockRef) :
    stageFields configuration.conceal stage block = stageFields configuration stage block := rfl

theorem blind_runStage (invocation : Invocation) (block : BlockRef) (stage : Operation) :
    Procedure.Blind (runStage invocation block stage) := by
  refine (blind_checkpoint _).bind fun _ => alike_get_bind ?_
  intro service other same
  obtain ⟨_, _, configuration⟩ := parts_of_conceal same
  rw [← stageFields_conceal service.configuration, configuration, stageFields_conceal]
  exact blind_report _ _ _

theorem obstacle?_conceal (service : DryRun) (operation : Operation) :
    service.conceal.obstacle? operation = service.obstacle? operation := rfl

theorem blind_perform (operation : Operation) (invocation : Invocation) (block : BlockRef) :
    Procedure.Blind (perform operation invocation block) := by
  apply alike_get_bind
  intro service other same
  rw [← obstacle?_conceal service, same, obstacle?_conceal]
  cases other.obstacle? operation with
  | some fault => exact blind_throw fault
  | none => exact Procedure.blind_forM (blind_runStage invocation block) operation.stages

end DryRun

namespace Action

def Alike (first second : Action DryRun ε α) : Prop :=
  ∀ run other : Run DryRun, run.Alike other →
    (first run).1 = (second other).1 ∧ (first run).2.Alike (second other).2

abbrev Blind (action : Action DryRun ε α) : Prop :=
  Alike action action

theorem blind_pure (value : α) : Blind (pure value : Action DryRun ε α) :=
  fun _ _ alike => ⟨rfl, alike⟩

theorem blind_throw (error : ε) : Blind (throw error : Action DryRun ε α) :=
  fun _ _ alike => ⟨rfl, alike⟩

theorem alike_throw_bind (error : ε) (next others : α → Action DryRun ε β) :
    Alike (throw error >>= next) (throw error >>= others) :=
  fun _ _ alike => ⟨rfl, alike⟩

theorem Alike.bind {first second : Action DryRun ε α} {next others : α → Action DryRun ε β}
    (alike : Alike first second) (later : ∀ value, Alike (next value) (others value)) :
    Alike (first >>= next) (second >>= others) := by
  intro run other same
  obtain ⟨sameResult, sameRun⟩ := alike run other same
  rw [bind_apply, bind_apply]
  generalize first run = ended at *
  generalize second other = otherEnded at *
  rcases ended with ⟨result, after⟩
  rcases otherEnded with ⟨otherResult, otherAfter⟩
  obtain rfl : result = otherResult := sameResult
  cases result with
  | error error => exact ⟨rfl, sameRun⟩
  | ok value => exact later value after otherAfter sameRun

theorem alike_get_bind {next others : Run DryRun → Action DryRun ε α}
    (alike : ∀ run other : Run DryRun, run.Alike other → Alike (next run) (others other)) :
    Alike (get >>= next) (get >>= others) :=
  fun run other same => alike run other same run other same

theorem alike_modify {change changeOther : Run DryRun → Run DryRun}
    (alike : ∀ run other : Run DryRun, run.Alike other → (change run).Alike (changeOther other)) :
    Alike (modify change : Action DryRun ε PUnit) (modify changeOther) :=
  fun run other same => ⟨rfl, alike run other same⟩

theorem blind_enter (phase : Phase) : Blind (enter phase : Action DryRun ε Unit) := by
  intro run other same
  refine ⟨rfl, ?_⟩
  exact congrArg (fun run : Run DryRun => { run with phase }) same

theorem blind_report (severity : Log.Severity) (name : String) (fields : List (String × String)) :
    Blind (report severity name fields : Action DryRun ε Unit) := by
  intro run other same
  refine ⟨rfl, ?_⟩
  exact congrArg (fun run : Run DryRun => run.report severity name fields) same

theorem Alike.attempt {first second : Action DryRun δ α} (alike : Alike first second) :
    Alike (attempt first : Action DryRun ε (Except δ α)) (attempt second) := by
  intro run other same
  obtain ⟨sameResult, sameRun⟩ := alike run other same
  exact ⟨congrArg Except.ok sameResult, sameRun⟩

theorem alike_call {first second : Procedure DryRun α} (alike : first.Alike second) :
    Alike (call first : Action DryRun ε (Except Fault α)) (call second) := by
  intro run other same
  obtain ⟨sameResult, sameService, sameSession⟩ :=
    alike run.session run.world other.world same.world
  rw [call_apply, call_apply]
  simp only [Run.called, ← same.session]
  generalize run.session.perform (first run.world) = ended at *
  generalize run.session.perform (second other.world) = otherEnded at *
  rcases ended with ⟨⟨result, after⟩, session⟩
  rcases otherEnded with ⟨⟨otherResult, otherAfter⟩, otherSession⟩
  obtain rfl : result = otherResult := sameResult
  obtain rfl : session = otherSession := sameSession
  exact ⟨rfl, same.serve sameService session⟩

theorem alike_require {first second : Procedure DryRun α} (alike : first.Alike second)
    (failure : Fault → Failure) : Alike (require first failure) (require second failure) := by
  refine (alike_call alike).bind ?_
  intro result
  cases result with
  | ok value => exact blind_pure value
  | error fault => exact blind_throw (failure fault)

theorem Alike.outcome {first second : Action DryRun Problem α} (alike : Alike first second) :
    Alike (outcome first) (outcome second) := by
  refine alike.attempt.bind ?_
  rintro ((misuse | failure) | value)
  · exact blind_throw (Problem.misuse misuse)
  · exact blind_pure (Except.error failure)
  · exact blind_pure (Except.ok value)

end Action

namespace Pipeline

open ProverInput.Action (blind_pure blind_throw alike_throw_bind alike_get_bind alike_modify
  blind_enter blind_report alike_call alike_require)

variable {urls : UrlLibrary} {pipeline : Pipeline DryRun}

theorem blind_reportFailure (pipeline : Pipeline DryRun) (failure : Failure) :
    Action.Blind (pipeline.reportFailure failure : Action DryRun ε Unit) := by
  apply alike_get_bind
  intro run other same
  rw [same.phase]
  exact blind_report _ _ _

theorem alike_configure (pipeline : Pipeline DryRun) {layer other : Layer} (blockText : String)
    (alike : (Configuration.load layer).map Configuration.conceal
      = (Configuration.load other).map Configuration.conceal) :
    Action.Alike (pipeline.configure layer blockText) (pipeline.configure other blockText) := by
  unfold configure
  cases left : Configuration.load layer with
  | error cause =>
      cases right : Configuration.load other with
      | error otherCause =>
          obtain rfl : cause = otherCause := by simpa [left, right, Except.map] using alike
          exact blind_throw _
      | ok configuration => simp [left, right, Except.map] at alike
  | ok configuration =>
      cases right : Configuration.load other with
      | error cause => simp [left, right, Except.map] at alike
      | ok otherConfiguration =>
          have same : configuration.conceal = otherConfiguration.conceal := by
            simpa [left, right, Except.map] using alike
          have log : configuration.log = otherConfiguration.log := congrArg (·.log) same
          refine (alike_modify ?_).bind fun _ => (blind_enter _).bind fun _ => blind_report _ _ _
          intro run other runs
          rw [log, runs.session]
          exact runs.configure same _

theorem blind_createService (dryRun : pipeline.backend = DryRun.backend urls) :
    Action.Blind pipeline.createService := by
  apply alike_get_bind
  intro run other same
  rw [dryRun]
  refine (alike_require (DryRun.alike_create _ same.configuration) _).bind ?_
  intro created
  cases created with
  | true =>
      refine (alike_modify ?_).bind fun _ => (blind_enter _).bind fun _ => blind_report _ _ _
      intro run other same
      exact congrArg (fun run : Run DryRun => { run with context.hasService := true }) same
  | false => exact alike_throw_bind _ _ _

theorem blind_startService (dryRun : pipeline.backend = DryRun.backend urls)
    (invocation : Invocation) : Action.Blind (pipeline.startService invocation) := by
  unfold startService
  rw [dryRun]
  exact (alike_require (DryRun.blind_start invocation) _).bind fun _ =>
    (blind_enter _).bind fun _ => blind_report _ _ _

theorem blind_resolveBlock (blockText : String) :
    Action.Blind (resolveBlock blockText : Action DryRun Failure Unit) := by
  unfold resolveBlock
  cases BlockRef.parse blockText with
  | error cause => exact blind_throw _
  | ok block =>
      refine (alike_modify ?_).bind fun _ => (blind_enter _).bind fun _ => blind_report _ _ _
      intro run other same
      exact congrArg (fun run : Run DryRun => { run with context.block := some block }) same

theorem blind_checkStorage : Action.Blind (checkStorage : Action DryRun Failure Unit) := by
  apply alike_get_bind
  intro run other same
  rw [← FieldGroup.missing?_conceal, same.configuration, FieldGroup.missing?_conceal]
  cases FieldGroup.s3.missing? other.context.configuration with
  | some missing => exact blind_throw _
  | none => exact blind_enter _

theorem alike_setup (dryRun : pipeline.backend = DryRun.backend urls) {layer other : Layer}
    (alike : (Configuration.load layer).map Configuration.conceal
      = (Configuration.load other).map Configuration.conceal)
    (blockText : String) (invocation : Invocation) :
    Action.Alike (pipeline.setup layer blockText invocation)
      (pipeline.setup other blockText invocation) := by
  have steps : Action.Alike (pipeline.setupSteps layer blockText invocation)
      (pipeline.setupSteps other blockText invocation) :=
    (alike_configure pipeline blockText alike).bind fun _ =>
      (blind_createService dryRun).bind fun _ =>
        (blind_startService dryRun invocation).bind fun _ =>
          (blind_resolveBlock blockText).bind fun _ => blind_checkStorage
  apply alike_get_bind
  intro run other same
  rw [same.phase]
  by_cases idle : other.phase = .idle
  · simp only [idle, if_true]
    refine steps.attempt.bind ?_
    rintro (failure | finished)
    · exact (blind_enter _).bind fun _ => (blind_reportFailure pipeline failure).bind fun _ =>
        blind_throw _
    · exact blind_pure ()
  · simp only [idle, if_false]
    exact alike_throw_bind _ _ _

theorem blind_run (dryRun : pipeline.backend = DryRun.backend urls) (invocation : Invocation) :
    Action.Blind (pipeline.run invocation) := by
  apply alike_get_bind
  intro run other same
  rw [same.phase, same.block, dryRun]
  split
  · rename_i block _ _
    refine (blind_report _ _ _).bind fun _ =>
      (alike_call (DryRun.blind_perform _ invocation block)).bind ?_
    rintro (fault | value)
    · exact (blind_enter _).bind fun _ => blind_throw _
    · exact blind_enter _
  · exact blind_throw _

theorem blind_teardown (dryRun : pipeline.backend = DryRun.backend urls) (invocation : Invocation) :
    Action.Blind (pipeline.teardown invocation) := by
  apply alike_get_bind
  intro run other same
  rw [same.phase, dryRun]
  by_cases attempted : other.phase = .ran ∨ other.phase = .runFailed
  · simp only [attempted, if_true]
    refine (alike_call (DryRun.blind_stop invocation)).bind ?_
    rintro (fault | stopped)
    · exact (blind_enter _).bind fun _ => (blind_report _ _ _).bind fun _ => blind_throw _
    · exact (blind_enter _).bind fun _ => blind_report _ _ _
  · simp only [attempted, if_false]
    exact alike_throw_bind _ _ _

/-- The whole life of a command does not tell secrets apart. -/
theorem alike_invoke (dryRun : pipeline.backend = DryRun.backend urls) {layer other : Layer}
    (alike : (Configuration.load layer).map Configuration.conceal
      = (Configuration.load other).map Configuration.conceal)
    (blockText : String) (invocation : Invocation) :
    Action.Alike (pipeline.invoke layer blockText invocation)
      (pipeline.invoke other blockText invocation) := by
  refine (alike_setup dryRun alike blockText invocation).bind fun _ =>
    (blind_run dryRun invocation).outcome.bind fun ran =>
      (blind_teardown dryRun invocation).outcome.bind fun stopped => ?_
  -- a failure of the run or of the stop is reported in the same way
  have failed (failure : Failure) : Action.Blind (do
      pipeline.reportFailure failure
      throw (.failure failure) : Action DryRun Problem Unit) :=
    (blind_reportFailure pipeline failure).bind fun _ => blind_throw _
  rcases ran with failure | ran
  · exact failed failure
  · rcases stopped with failure | stopped
    · exact failed failure
    · apply alike_get_bind
      intro run other same
      rw [same.block]
      exact blind_report _ _ _

end Pipeline

end ProverInput
