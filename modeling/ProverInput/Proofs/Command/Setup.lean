import ProverInput.Proofs.Command.Action

/-!
The courses that setup can take. A course says how setup ended, which run it left and which calls
the backend got, so a proof about setup is a case for each course.
-/

namespace ProverInput.Pipeline

variable {World : Type}

def configured (pipeline : Pipeline World) (configuration : Configuration) (blockText : String)
    (run : Run World) : Run World :=
  let adopted : Run World := { run with
    context.configuration := configuration
    session := run.session.adopt configuration.log.level configuration.log.format }
  (adopted.enter .configured).report .debug "command.setup"
    [("command", pipeline.command.name), ("block_argument", blockText)]

def serviceCreated (pipeline : Pipeline World) (run : Run World) : Run World :=
  let served : Run World := { run with context.hasService := true }
  (served.enter .serviceCreated).report .debug "service.created"
    [("command", pipeline.command.name)]

def serviceStarted (pipeline : Pipeline World) (run : Run World) : Run World :=
  (run.enter .serviceStarted).report .info "service.started" [("command", pipeline.command.name)]

def blockResolved (block : BlockRef) (run : Run World) : Run World :=
  let resolved : Run World := { run with context.block := some block }
  (resolved.enter .blockResolved).report .debug "block_number.resolved" [("block", block.text)]

def commandFailed (pipeline : Pipeline World) (failure : Failure) (run : Run World) : Run World :=
  run.report .error "command.failed" [("command", pipeline.command.name),
    ("stage", failure.stage.name), ("state", run.phase.name), ("code", failure.code),
    ("error", failure.text)]

theorem configure_apply (pipeline : Pipeline World) (layer : Layer) (blockText : String)
    (run : Run World) :
    pipeline.configure layer blockText run = match Configuration.load layer with
      | .error cause => (.error (.config cause), run)
      | .ok configuration => (.ok (), pipeline.configured configuration blockText run) := by
  unfold configure
  cases Configuration.load layer with
  | error cause => rfl
  | ok configuration => rfl

theorem createService_apply (pipeline : Pipeline World) (run : Run World) :
    pipeline.createService run =
      match run.called (pipeline.backend.create run.context.configuration) with
      | (.ok true, after) => (.ok (), pipeline.serviceCreated after)
      | (.ok false, after) => (.error .absentService, after)
      | (.error fault, after) => (.error (.create fault), after) := by
  simp only [createService, Action.bind_apply, Action.get_apply, Action.require_apply]
  rcases run.called (pipeline.backend.create run.context.configuration) with
    ⟨fault | (created | created), after⟩
  · rfl
  · rfl
  · rfl

theorem startService_apply (pipeline : Pipeline World) (invocation : Invocation)
    (run : Run World) :
    pipeline.startService invocation run =
      match run.called (pipeline.backend.start invocation) with
      | (.ok (), after) => (.ok (), pipeline.serviceStarted after)
      | (.error fault, after) => (.error (.start fault), after) := by
  simp only [startService, Action.bind_apply, Action.require_apply]
  rcases run.called (pipeline.backend.start invocation) with ⟨fault | done, after⟩
  · rfl
  · rfl

theorem resolveBlock_apply (blockText : String) (run : Run World) :
    resolveBlock blockText run = match BlockRef.parse blockText with
      | .error cause => (.error (.block cause), run)
      | .ok block => (.ok (), blockResolved block run) := by
  unfold resolveBlock
  cases BlockRef.parse blockText with
  | error cause => rfl
  | ok block => rfl

theorem checkStorage_apply (run : Run World) :
    checkStorage run = match FieldGroup.s3.missing? run.context.configuration with
      | some missing => (.error (.storage missing), run)
      | none => (.ok (), run.enter .ready) := by
  simp only [checkStorage, Action.bind_apply, Action.get_apply]
  cases FieldGroup.s3.missing? run.context.configuration with
  | none => rfl
  | some missing => rfl

def setupCalls (configuration : Configuration) : List CallRecord :=
  [⟨.create configuration, .returned⟩, ⟨.start, .returned⟩]

/-- How setup can go: its result, the run it leaves and the calls it makes. -/
inductive SetupCourse (pipeline : Pipeline World) (layer : Layer) (blockText : String)
    (invocation : Invocation) (start : Run World) :
    Except Failure Unit → Run World → List CallRecord → Prop
  | configRejected {cause} :
      Configuration.load layer = .error cause →
      SetupCourse pipeline layer blockText invocation start (.error (.config cause)) start []
  | createFailed {configuration fault after} :
      Configuration.load layer = .ok configuration →
      (pipeline.configured configuration blockText start).called
        (pipeline.backend.create configuration) = (.error fault, after) →
      SetupCourse pipeline layer blockText invocation start (.error (.create fault)) after
        [⟨.create configuration, .gaveUp fault⟩]
  | serviceAbsent {configuration after} :
      Configuration.load layer = .ok configuration →
      (pipeline.configured configuration blockText start).called
        (pipeline.backend.create configuration) = (.ok false, after) →
      SetupCourse pipeline layer blockText invocation start (.error .absentService) after
        [⟨.create configuration, .absent⟩]
  | startFailed {configuration created fault after} :
      Configuration.load layer = .ok configuration →
      (pipeline.configured configuration blockText start).called
        (pipeline.backend.create configuration) = (.ok true, created) →
      (pipeline.serviceCreated created).called (pipeline.backend.start invocation) =
        (.error fault, after) →
      SetupCourse pipeline layer blockText invocation start (.error (.start fault)) after
        [⟨.create configuration, .returned⟩, ⟨.start, .gaveUp fault⟩]
  | blockRejected {configuration created started cause} :
      Configuration.load layer = .ok configuration →
      (pipeline.configured configuration blockText start).called
        (pipeline.backend.create configuration) = (.ok true, created) →
      (pipeline.serviceCreated created).called (pipeline.backend.start invocation) =
        (.ok (), started) →
      BlockRef.parse blockText = .error cause →
      SetupCourse pipeline layer blockText invocation start (.error (.block cause))
        (pipeline.serviceStarted started) (setupCalls configuration)
  | storageIncomplete {configuration created started block missing} :
      Configuration.load layer = .ok configuration →
      (pipeline.configured configuration blockText start).called
        (pipeline.backend.create configuration) = (.ok true, created) →
      (pipeline.serviceCreated created).called (pipeline.backend.start invocation) =
        (.ok (), started) →
      BlockRef.parse blockText = .ok block →
      FieldGroup.s3.missing? configuration = some missing →
      SetupCourse pipeline layer blockText invocation start (.error (.storage missing))
        (blockResolved block (pipeline.serviceStarted started)) (setupCalls configuration)
  | ready {configuration created started block} :
      Configuration.load layer = .ok configuration →
      (pipeline.configured configuration blockText start).called
        (pipeline.backend.create configuration) = (.ok true, created) →
      (pipeline.serviceCreated created).called (pipeline.backend.start invocation) =
        (.ok (), started) →
      BlockRef.parse blockText = .ok block →
      FieldGroup.s3.missing? configuration = none →
      SetupCourse pipeline layer blockText invocation start (.ok ())
        ((blockResolved block (pipeline.serviceStarted started)).enter .ready)
        (setupCalls configuration)

variable {pipeline : Pipeline World} {layer : Layer} {blockText : String}
  {invocation : Invocation} {start finish : Run World} {calls : List CallRecord}

theorem context_of_started {configuration : Configuration} {created started : Run World}
    {made : Except Fault Bool} {ran : Except Fault Unit}
    (creation : (pipeline.configured configuration blockText start).called
      (pipeline.backend.create configuration) = (made, created))
    (starting : (pipeline.serviceCreated created).called (pipeline.backend.start invocation) =
      (ran, started)) :
    started.context = { start.context with configuration, hasService := true } := by
  have first : created.context = (pipeline.configured configuration blockText start).context :=
    Run.context_of_called creation
  have second : started.context = (pipeline.serviceCreated created).context :=
    Run.context_of_called starting
  rw [second]
  simp only [serviceCreated, Run.report, Run.enter, first, configured]

theorem SetupCourse.setupSteps_eq {result : Except Failure Unit}
    (course : SetupCourse pipeline layer blockText invocation start result finish calls) :
    pipeline.setupSteps layer blockText invocation start = (result, finish) := by
  have configuration_configured (configuration : Configuration) :
      (pipeline.configured configuration blockText start).context.configuration = configuration :=
    rfl
  have configuration_resolved (block : BlockRef) (run : Run World) :
      (blockResolved block (pipeline.serviceStarted run)).context.configuration =
        run.context.configuration := rfl
  simp only [setupSteps, Action.bind_apply, configure_apply]
  cases course with
  | configRejected rejected => simp only [rejected]
  | createFailed loaded failed =>
      simp only [loaded, createService_apply, configuration_configured, failed]
  | serviceAbsent loaded absent =>
      simp only [loaded, createService_apply, configuration_configured, absent]
  | startFailed loaded created failed =>
      simp only [loaded, createService_apply, configuration_configured, created,
        startService_apply, failed]
  | blockRejected loaded created started rejected =>
      simp only [loaded, createService_apply, configuration_configured, created,
        startService_apply, started, resolveBlock_apply, rejected]
  | storageIncomplete loaded created started parsed incomplete =>
      have kept := context_of_started created started
      simp only [loaded, createService_apply, configuration_configured, created,
        startService_apply, started, resolveBlock_apply, parsed, checkStorage_apply,
        configuration_resolved, kept, incomplete]
  | ready loaded created started parsed complete =>
      have kept := context_of_started created started
      simp only [loaded, createService_apply, configuration_configured, created,
        startService_apply, started, resolveBlock_apply, parsed, checkStorage_apply,
        configuration_resolved, kept, complete]

theorem exists_setupCourse (pipeline : Pipeline World) (layer : Layer) (blockText : String)
    (invocation : Invocation) (start : Run World) :
    ∃ result finish calls,
      SetupCourse pipeline layer blockText invocation start result finish calls := by
  cases loaded : Configuration.load layer with
  | error cause => exact ⟨_, _, _, .configRejected loaded⟩
  | ok configuration =>
      rcases created : (pipeline.configured configuration blockText start).called
          (pipeline.backend.create configuration) with ⟨fault | (absent | present), served⟩
      · exact ⟨_, _, _, .createFailed loaded created⟩
      · exact ⟨_, _, _, .serviceAbsent loaded created⟩
      · rcases started : (pipeline.serviceCreated served).called
            (pipeline.backend.start invocation) with ⟨fault | done, running⟩
        · exact ⟨_, _, _, .startFailed loaded created started⟩
        · cases parsed : BlockRef.parse blockText with
          | error cause => exact ⟨_, _, _, .blockRejected loaded created started parsed⟩
          | ok block =>
              cases checked : FieldGroup.s3.missing? configuration with
              | some missing =>
                  exact ⟨_, _, _, .storageIncomplete loaded created started parsed checked⟩
              | none => exact ⟨_, _, _, .ready loaded created started parsed checked⟩

theorem setup_of_not_idle (busy : start.phase ≠ .idle) :
    pipeline.setup layer blockText invocation start = (.error (.misuse .setupRepeated), start) := by
  simp only [setup, Action.bind_apply, Action.get_apply, busy, if_false, Action.throw_apply]

theorem SetupCourse.setup_eq_of_ok (idle : start.phase = .idle)
    (course : SetupCourse pipeline layer blockText invocation start (.ok ()) finish calls) :
    pipeline.setup layer blockText invocation start = (.ok (), finish) := by
  simp only [setup, Action.bind_apply, Action.get_apply, idle, if_true, Action.attempt_apply,
    course.setupSteps_eq, Action.pure_apply]

theorem SetupCourse.setup_eq_of_error {failure : Failure} (idle : start.phase = .idle)
    (course : SetupCourse pipeline layer blockText invocation start (.error failure) finish calls) :
    pipeline.setup layer blockText invocation start =
      (.error (.failure failure), pipeline.commandFailed failure (finish.enter .setupFailed)) := by
  simp only [setup, Action.bind_apply, Action.get_apply, idle, if_true, Action.attempt_apply,
    course.setupSteps_eq, Action.enter_apply, reportFailure, Action.report_apply,
    Action.throw_apply]
  rfl

theorem SetupCourse.ready_run
    (course : SetupCourse pipeline layer blockText invocation start (.ok ()) finish calls) :
    ∃ configuration block, Configuration.load layer = .ok configuration ∧
      BlockRef.parse blockText = .ok block ∧ FieldGroup.s3.missing? configuration = none ∧
      finish.phase = .ready ∧ finish.context = ⟨configuration, true, some block⟩ ∧
      calls = setupCalls configuration := by
  cases course with
  | @ready configuration created started block loaded creation starting parsed complete =>
      refine ⟨configuration, block, loaded, parsed, complete, rfl, ?_, rfl⟩
      simp only [blockResolved, serviceStarted, Run.enter, Run.report,
        context_of_started creation starting]

end ProverInput.Pipeline
