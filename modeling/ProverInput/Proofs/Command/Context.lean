import ProverInput.Proofs.Command.History
import ProverInput.Proofs.Command.Verdict
import ProverInput.Proofs.FieldGroup

/-!
What the context of a pipeline holds between two calls. It is empty before setup, complete once
setup has passed, and after a failed setup it holds what the stages before the failure have
acquired. So whatever an entry point takes to be there is there.
-/

namespace ProverInput

variable {World : Type}

namespace Phase

def resting : List Phase :=
  [.idle, .setupFailed, .ready, .ran, .runFailed, .completed, .failed]

def equipped : List Phase :=
  [.ready, .ran, .runFailed, .completed, .failed]

end Phase

/-- The context holds what setup acquires before the stage in which it fails, and nothing else. -/
structure Context.Acquired (context : Context) (layer : Layer) (blockText : String)
    (stage : Stage) : Prop where
  configured : Configuration.load layer = .ok context.configuration ↔ stage ≠ .config
  unconfigured : stage = .config → context.configuration = {}
  served : context.hasService = true ↔
    stage = .serviceStart ∨ stage = .blockNumber ∨ stage = .validation
  resolved : stage = .validation →
    ∃ block, BlockRef.parse blockText = .ok block ∧ context.block = some block
  unresolved : stage ≠ .validation → context.block = none

namespace Pipeline

def failureOf? : Except Problem Unit → Option Failure
  | .error (.failure failure) => some failure
  | _ => none

def outcomes (pipeline : Pipeline World) :
    List EntryPoint → Run World → List (Except Problem Unit)
  | [], _ => []
  | point :: rest, run =>
    (pipeline.visit point run).1 :: pipeline.outcomes rest (pipeline.visit point run).2

/-- What the phase says about the context, with the arguments of the setup so far and the first
failure that was thrown. -/
inductive Equipped : Option (Layer × String) → Option Failure → Phase → Context → Prop
  | idle : Equipped none none .idle {}
  | setupFailed {layer blockText failure context} :
      failure.stage ∈ Stage.setup → context.Acquired layer blockText failure.stage →
      Equipped (some (layer, blockText)) (some failure) .setupFailed context
  | prepared {layer blockText failure phase configuration block} :
      phase ∈ Phase.equipped → Configuration.load layer = .ok configuration →
      BlockRef.parse blockText = .ok block → FieldGroup.s3.missing? configuration = none →
      Equipped (some (layer, blockText)) failure phase ⟨configuration, true, some block⟩

variable {pipeline : Pipeline World} {layer : Layer} {blockText : String}
  {invocation : Invocation} {start finish : Run World} {calls : List CallRecord}

namespace Equipped

variable {arguments : Option (Layer × String)} {failure : Option Failure} {phase : Phase}
  {context : Context}

theorem of_idle (equipped : Equipped arguments failure phase context) (idle : phase = .idle) :
    arguments = none ∧ failure = none ∧ context = {} := by
  cases equipped with
  | idle => exact ⟨rfl, rfl, rfl⟩
  | setupFailed member acquired => contradiction
  | prepared passed loaded parsed complete => simp [idle, Phase.equipped] at passed

theorem of_setupFailed (equipped : Equipped arguments failure phase context)
    (failed : phase = .setupFailed) :
    ∃ layer blockText cause, arguments = some (layer, blockText) ∧ failure = some cause ∧
      cause.stage ∈ Stage.setup ∧ context.Acquired layer blockText cause.stage := by
  cases equipped with
  | idle => contradiction
  | setupFailed member acquired => exact ⟨_, _, _, rfl, rfl, member, acquired⟩
  | prepared passed loaded parsed complete => simp [failed, Phase.equipped] at passed

theorem of_passed (equipped : Equipped arguments failure phase context)
    (passed : phase ∈ Phase.equipped) :
    ∃ layer blockText configuration block, arguments = some (layer, blockText) ∧
      Configuration.load layer = .ok configuration ∧ BlockRef.parse blockText = .ok block ∧
      FieldGroup.s3.missing? configuration = none ∧
      context = ⟨configuration, true, some block⟩ := by
  cases equipped with
  | idle => simp [Phase.equipped] at passed
  | setupFailed member acquired => simp [Phase.equipped] at passed
  | prepared _ loaded parsed complete => exact ⟨_, _, _, _, rfl, loaded, parsed, complete, rfl⟩

/-- What a run keeps of its context is kept in every later phase, whatever fails later. -/
theorem advance (equipped : Equipped arguments failure phase context)
    (passed : phase ∈ Phase.equipped) {next : Phase} (later : next ∈ Phase.equipped)
    (other : Option Failure) : Equipped arguments other next context := by
  obtain ⟨_, _, _, _, rfl, loaded, parsed, complete, rfl⟩ := equipped.of_passed passed
  exact .prepared later loaded parsed complete

theorem kept (equipped : Equipped arguments failure phase context) {point : EntryPoint}
    (early : ¬ point.Admissible phase) : arguments.or point.setup? = arguments := by
  cases equipped with
  | idle =>
      cases point with
      | setup layer blockText invocation => exact absurd rfl early
      | invoke layer blockText invocation => exact absurd rfl early
      | run invocation => rfl
      | teardown invocation => rfl
  | _ => rfl

theorem mem_resting (equipped : Equipped arguments failure phase context) :
    phase ∈ Phase.resting := by
  cases equipped with
  | idle => decide
  | setupFailed member acquired => decide
  | prepared passed loaded parsed complete =>
      have both : Phase.resting = [.idle, .setupFailed] ++ Phase.equipped := rfl
      rw [both]
      exact List.mem_append_right _ passed

end Equipped

theorem acquired_of_load {configuration : Configuration} {context : Context} {stage : Stage}
    (loaded : Configuration.load layer = .ok configuration) (past : stage ≠ .config)
    (same : context.configuration = configuration)
    (served : context.hasService = true ↔
      stage = .serviceStart ∨ stage = .blockNumber ∨ stage = .validation)
    (unresolved : stage ≠ .validation) (empty : context.block = none) :
    context.Acquired layer blockText stage where
  configured := by
    rw [same]
    exact ⟨fun _ => past, fun _ => loaded⟩
  unconfigured := fun first => absurd first past
  served := served
  resolved := fun last => absurd last unresolved
  unresolved := fun _ => empty

theorem SetupCourse.acquired {failure : Failure} (bare : start.context = {})
    (course : SetupCourse pipeline layer blockText invocation start (.error failure) finish calls) :
    finish.context.Acquired layer blockText failure.stage := by
  have configured (configuration : Configuration) :
      (pipeline.configured configuration blockText start).context = { configuration } := by
    simp only [Pipeline.configured, Run.report, Run.enter, bare]
  have serving {configuration : Configuration} {created started : Run World}
      {made : Except Fault Bool} {ran : Except Fault Unit}
      (creation : (pipeline.configured configuration blockText start).called
        (pipeline.backend.create configuration) = (made, created))
      (starting : (pipeline.serviceCreated created).called (pipeline.backend.start invocation) =
        (ran, started)) : started.context = { configuration, hasService := true } := by
    rw [context_of_started creation starting, bare]
  cases course with
  | configRejected rejected =>
      rw [bare]
      constructor
      case configured => simp [rejected, Failure.stage]
      case unconfigured => exact fun _ => rfl
      case served => simp [Failure.stage]
      case resolved => simp [Failure.stage]
      case unresolved => exact fun _ => rfl
  | createFailed loaded failed =>
      have context := (Run.context_of_called failed).trans (configured _)
      rw [context]
      exact acquired_of_load loaded (by simp [Failure.stage]) rfl (by simp [Failure.stage])
        (by simp [Failure.stage]) rfl
  | serviceAbsent loaded absent =>
      have context := (Run.context_of_called absent).trans (configured _)
      rw [context]
      exact acquired_of_load loaded (by simp [Failure.stage]) rfl (by simp [Failure.stage])
        (by simp [Failure.stage]) rfl
  | startFailed loaded created failed =>
      rw [serving created failed]
      exact acquired_of_load loaded (by simp [Failure.stage]) rfl (by simp [Failure.stage])
        (by simp [Failure.stage]) rfl
  | @blockRejected _ _ started _ loaded created starting rejected =>
      have context := serving created starting
      change started.context.Acquired _ _ _
      rw [context]
      exact acquired_of_load loaded (by simp [Failure.stage]) rfl (by simp [Failure.stage])
        (by simp [Failure.stage]) rfl
  | @storageIncomplete configuration _ started block missing loaded created starting parsed
      incomplete =>
      have context : (blockResolved block (pipeline.serviceStarted started)).context =
          ⟨configuration, true, some block⟩ :=
        congrArg (fun context : Context => { context with block := some block })
          (serving created starting)
      rw [context]
      constructor
      case configured => simp [loaded, Failure.stage]
      case unconfigured => simp [Failure.stage]
      case served => simp [Failure.stage]
      case resolved => exact fun _ => ⟨block, parsed, rfl⟩
      case unresolved => simp [Failure.stage]

theorem SetupCourse.equipped
    (course : SetupCourse pipeline layer blockText invocation start (.ok ()) finish calls)
    (failure : Option Failure) :
    Equipped (some (layer, blockText)) failure finish.phase finish.context := by
  obtain ⟨configuration, block, loaded, parsed, complete, ready, context, _⟩ := course.ready_run
  rw [ready, context]
  exact .prepared (by decide) loaded parsed complete

theorem SetupCourse.equipped_of_stopped {ready ran stopped : Run World} {block : BlockRef}
    {performed ended : Except Fault Unit} {phase next : Phase}
    (course : SetupCourse pipeline layer blockText invocation start (.ok ()) ready calls)
    (performing : (pipeline.commandRun block ready).called
      (pipeline.backend.perform pipeline.operation invocation block) = (performed, ran))
    (stopping : (ran.enter phase).called (pipeline.backend.stop invocation) = (ended, stopped))
    (later : next ∈ Phase.equipped) (failure : Option Failure) :
    Equipped (some (layer, blockText)) failure next stopped.context := by
  obtain ⟨_, _, _, _, _, isReady, _, _⟩ := course.ready_run
  have first : ran.context = (pipeline.commandRun block ready).context :=
    Run.context_of_called performing
  have second : stopped.context = (ran.enter phase).context := Run.context_of_called stopping
  have kept : stopped.context = ready.context := second.trans first
  rw [kept]
  exact (course.equipped none).advance (by rw [isReady]; decide) later failure

theorem InvokeCourse.equipped {result : Except Failure Unit} (bare : start.context = {})
    (course : InvokeCourse pipeline layer blockText invocation start result finish calls) :
    Equipped (some (layer, blockText)) (failureOf? (answer result)) finish.phase
      finish.context := by
  have completed : Phase.completed ∈ Phase.equipped := by decide
  have failed : Phase.failed ∈ Phase.equipped := by decide
  cases course with
  | setupFailed setupCourse =>
      have acquired := setupCourse.acquired bare
      exact .setupFailed setupCourse.stage_mem acquired
  | completed setupCourse resolved performed stopping =>
      have ended := setupCourse.equipped_of_stopped performed stopping completed
      exact ended none
  | stopFailed setupCourse resolved performed stopping =>
      have ended := setupCourse.equipped_of_stopped performed stopping failed
      exact ended (some _)
  | runFailed setupCourse resolved performed stopping =>
      have ended := setupCourse.equipped_of_stopped performed stopping failed
      exact ended (some _)
  | bothFailed setupCourse resolved performed stopping =>
      have ended := setupCourse.equipped_of_stopped performed stopping failed
      exact ended (some _)

theorem setup_equipped {result : Except Problem Unit} (idle : start.phase = .idle)
    (bare : start.context = {})
    (called : pipeline.setup layer blockText invocation start = (result, finish)) :
    Equipped (some (layer, blockText)) (failureOf? result) finish.phase finish.context := by
  obtain ⟨ended, ready, calls, course⟩ :=
    exists_setupCourse pipeline layer blockText invocation start
  cases ended with
  | error failure =>
      have acquired := course.acquired bare
      rw [course.setup_eq_of_error idle] at called
      obtain ⟨rfl, rfl⟩ := Prod.mk.inj called
      exact .setupFailed course.stage_mem acquired
  | ok done =>
      rw [course.setup_eq_of_ok idle] at called
      obtain ⟨rfl, rfl⟩ := Prod.mk.inj called
      exact course.equipped none

section Later

variable {arguments : Option (Layer × String)} {failure : Option Failure}
  {result : Except Problem Unit}

theorem run_equipped (equipped : Equipped arguments failure start.phase start.context)
    (ready : start.phase = .ready) (called : pipeline.run invocation start = (result, finish))
    (other : Option Failure) :
    Equipped arguments other finish.phase finish.context ∧
      (finish.phase = .ran ∨ finish.phase = .runFailed) := by
  have passed : start.phase ∈ Phase.equipped := by
    rw [ready]
    decide
  obtain ⟨_, _, _, block, _, _, _, _, context⟩ := equipped.of_passed passed
  have resolved : start.context.block = some block := by rw [context]
  rw [run_of_ready ready resolved] at called
  rcases performed : (pipeline.commandRun block start).called
    (pipeline.backend.perform pipeline.operation invocation block) with ⟨ended, after⟩
  have kept : after.context = (pipeline.commandRun block start).context :=
    Run.context_of_called performed
  have next (phase : Phase) (later : phase ∈ Phase.equipped) :
      Equipped arguments other phase after.context := by
    rw [kept]
    exact equipped.advance passed later other
  rw [performed] at called
  cases ended with
  | error fault =>
      obtain rfl := (Prod.mk.inj called).2
      exact ⟨next .runFailed (by decide), Or.inr rfl⟩
  | ok done =>
      obtain rfl := (Prod.mk.inj called).2
      exact ⟨next .ran (by decide), Or.inl rfl⟩

theorem teardown_equipped (equipped : Equipped arguments failure start.phase start.context)
    (attempted : start.phase = .ran ∨ start.phase = .runFailed)
    (called : pipeline.teardown invocation start = (result, finish)) (other : Option Failure) :
    Equipped arguments other finish.phase finish.context ∧ finish.phase ∈ Phase.equipped := by
  have passed : start.phase ∈ Phase.equipped := by
    rcases attempted with ran | failed
    · rw [ran]
      decide
    · rw [failed]
      decide
  rcases stopping : start.called (pipeline.backend.stop invocation) with ⟨ended, after⟩
  have next (phase : Phase) (later : phase ∈ Phase.equipped) :
      Equipped arguments other phase after.context ∧ phase ∈ Phase.equipped := by
    rw [Run.context_of_called stopping]
    exact ⟨equipped.advance passed later other, later⟩
  rcases attempted with ran | failed
  · rw [teardown_of_ran ran, stopping] at called
    cases ended with
    | error fault =>
        obtain rfl := (Prod.mk.inj called).2
        exact next .failed (by decide)
    | ok done =>
        obtain rfl := (Prod.mk.inj called).2
        exact next .completed (by decide)
  · rw [teardown_of_runFailed failed, stopping] at called
    cases ended with
    | error fault =>
        obtain rfl := (Prod.mk.inj called).2
        exact next .failed (by decide)
    | ok done =>
        obtain rfl := (Prod.mk.inj called).2
        exact next .failed (by decide)

theorem visit_equipped {point : EntryPoint}
    (equipped : Equipped arguments failure start.phase start.context)
    (called : pipeline.visit point start = (result, finish)) :
    Equipped (arguments.or point.setup?) (failure.or (failureOf? result)) finish.phase
      finish.context := by
  by_cases inTurn : point.Admissible start.phase
  · cases point with
    | setup layer blockText invocation =>
        obtain ⟨rfl, rfl, bare⟩ := equipped.of_idle inTurn
        exact setup_equipped inTurn bare called
    | run invocation =>
        have kept : arguments.or (EntryPoint.run invocation).setup? = arguments := Option.or_none
        rw [kept]
        exact (run_equipped equipped inTurn called _).1
    | teardown invocation =>
        have kept : arguments.or (EntryPoint.teardown invocation).setup? = arguments :=
          Option.or_none
        rw [kept]
        exact (teardown_equipped equipped inTurn called _).1
    | invoke layer blockText invocation =>
        obtain ⟨rfl, rfl, bare⟩ := equipped.of_idle inTurn
        obtain ⟨ended, after, calls, course⟩ :=
          exists_invokeCourse pipeline layer blockText invocation start
        obtain ⟨rfl, rfl⟩ := Prod.mk.inj ((course.invoke_eq inTurn).symm.trans called)
        exact course.equipped bare
  · rw [visit_of_inadmissible inTurn] at called
    obtain ⟨rfl, rfl⟩ := Prod.mk.inj called
    have unthrown : failure.or (failureOf? (.error (.misuse point.misuse))) = failure :=
      Option.or_none
    rw [equipped.kept inTurn, unthrown]
    exact equipped

theorem history_equipped (equipped : Equipped arguments failure start.phase start.context)
    (points : List EntryPoint) :
    Equipped (arguments.or (points.findSome? EntryPoint.setup?))
      (failure.or ((pipeline.outcomes points start).findSome? failureOf?))
      (pipeline.history points start).phase (pipeline.history points start).context := by
  induction points generalizing start arguments failure with
  | nil =>
      rw [List.findSome?_nil, outcomes, List.findSome?_nil, Option.or_none, Option.or_none]
      exact equipped
  | cons point rest ih =>
      rcases called : pipeline.visit point start with ⟨result, after⟩
      have next := ih (visit_equipped equipped called)
      have setups : (point :: rest).findSome? EntryPoint.setup? =
          point.setup?.or (rest.findSome? EntryPoint.setup?) := by
        rw [List.findSome?_cons]
        cases point.setup? <;> rfl
      have failures : (pipeline.outcomes (point :: rest) start).findSome? failureOf? =
          (failureOf? result).or ((pipeline.outcomes rest after).findSome? failureOf?) := by
        rw [outcomes, called, List.findSome?_cons]
        cases failureOf? result <;> rfl
      have followed : pipeline.history (point :: rest) start = pipeline.history rest after :=
        congrArg (fun visited : Except Problem Unit × Run World =>
          pipeline.history rest visited.2) called
      rw [setups, failures, followed, ← Option.or_assoc, ← Option.or_assoc]
      exact next

end Later

inductive Part where
  | operation
  | service
  | block
  deriving DecidableEq, Repr

def Has (pipeline : Pipeline World) (run : Run World) : Part → Prop
  | .operation => pipeline.command.operation.isSome = true
  | .service => run.context.hasService = true
  | .block => run.context.block.isSome = true

/-- Called on the first run, the entry point uses a part of the second one without asking whether it
is there. An invocation does so where it runs the operation, where it stops the service, and where
it reports the block. -/
inductive Uses (pipeline : Pipeline World) : EntryPoint → Run World → Part → Run World → Prop
  | run {invocation run part} :
      run.phase = .ready → Uses pipeline (.run invocation) run part run
  | teardown {invocation run} :
      run.phase = .ran ∨ run.phase = .runFailed →
      Uses pipeline (.teardown invocation) run .service run
  | invokeRun {layer blockText invocation run ready part used} :
      pipeline.setup layer blockText invocation run = (.ok (), ready) →
      Uses pipeline (.run invocation) ready part used →
      Uses pipeline (.invoke layer blockText invocation) run part used
  | invokeTeardown {layer blockText invocation run ready result ran part used} :
      pipeline.setup layer blockText invocation run = (.ok (), ready) →
      pipeline.run invocation ready = (result, ran) →
      Uses pipeline (.teardown invocation) ran part used →
      Uses pipeline (.invoke layer blockText invocation) run part used
  | invokeCompleted {layer blockText invocation run ready ran stopped} :
      pipeline.setup layer blockText invocation run = (.ok (), ready) →
      pipeline.run invocation ready = (.ok (), ran) →
      pipeline.teardown invocation ran = (.ok (), stopped) →
      Uses pipeline (.invoke layer blockText invocation) run .block stopped

theorem Equipped.has {arguments : Option (Layer × String)} {failure : Option Failure}
    {run : Run World} (equipped : Equipped arguments failure run.phase run.context)
    (passed : run.phase ∈ Phase.equipped) (part : Part) : pipeline.Has run part := by
  obtain ⟨_, _, _, _, _, _, _, _, context⟩ := equipped.of_passed passed
  cases part with
  | operation => simp [Has, pipeline.bound]
  | service => simp [Has, context]
  | block => simp [Has, context]

theorem equipped_of_setup {ready : Run World}
    (passed : pipeline.setup layer blockText invocation start = (.ok (), ready)) :
    Equipped (some (layer, blockText)) none ready.phase ready.context ∧ ready.phase = .ready := by
  by_cases idle : start.phase = .idle
  · obtain ⟨result, finish, calls, course⟩ :=
      exists_setupCourse pipeline layer blockText invocation start
    cases result with
    | error failure =>
        rw [course.setup_eq_of_error idle] at passed
        cases passed
    | ok done =>
        rw [course.setup_eq_of_ok idle] at passed
        obtain rfl := (Prod.mk.inj passed).2
        obtain ⟨_, _, _, _, _, isReady, _⟩ := course.ready_run
        exact ⟨course.equipped none, isReady⟩
  · rw [setup_of_not_idle idle] at passed
    cases passed

theorem has_of_uses {arguments : Option (Layer × String)} {failure : Option Failure}
    {point : EntryPoint} {part : Part} {used : Run World}
    (equipped : Equipped arguments failure start.phase start.context)
    (uses : Uses pipeline point start part used) : pipeline.Has used part := by
  induction uses generalizing arguments failure with
  | run ready => exact equipped.has (by rw [ready]; decide) _
  | teardown attempted =>
      rcases attempted with ran | failed
      · exact equipped.has (by rw [ran]; decide) _
      · exact equipped.has (by rw [failed]; decide) _
  | invokeRun passed _ ih => exact ih (equipped_of_setup passed).1
  | invokeTeardown passed ran _ ih =>
      obtain ⟨isEquipped, isReady⟩ := equipped_of_setup passed
      exact ih (run_equipped isEquipped isReady ran none).1
  | invokeCompleted passed ran stopped =>
      obtain ⟨isEquipped, isReady⟩ := equipped_of_setup passed
      obtain ⟨stillEquipped, attempted⟩ := run_equipped isEquipped isReady ran none
      obtain ⟨last, ended⟩ := teardown_equipped stillEquipped attempted stopped none
      exact last.has ended _

/-- What a history of a new pipeline leaves in its context. -/
structure Furnished (pipeline : Pipeline World) (points : List EntryPoint)
    (start finish : Run World) : Prop where
  resting : finish.phase ∈ Phase.resting
  idle : finish.phase = .idle → finish.context = {}
  setupFailed : finish.phase = .setupFailed → ∃ layer blockText failure,
    points.findSome? EntryPoint.setup? = some (layer, blockText) ∧
    (pipeline.outcomes points start).findSome? failureOf? = some failure ∧
    failure.stage ∈ Stage.setup ∧ finish.context.Acquired layer blockText failure.stage
  equipped : finish.phase ∈ Phase.equipped → ∃ layer blockText configuration block,
    points.findSome? EntryPoint.setup? = some (layer, blockText) ∧
    Configuration.load layer = .ok configuration ∧ BlockRef.parse blockText = .ok block ∧
    configuration.inputs.s3.Settled ∧ finish.context = ⟨configuration, true, some block⟩
  present : ∀ point part used, Uses pipeline point finish part used → pipeline.Has used part

/-- Whatever entry points of a new pipeline are called, in whatever order and however the backend
answers, the phase tells what the context holds, and nothing is used that is not there. -/
theorem history_furnished (pipeline : Pipeline World) (points : List EntryPoint) (world : World)
    (session : Session) :
    let start : Run World := { world, session }
    Furnished pipeline points start (pipeline.history points start) := by
  intro start
  have initial : Equipped none none start.phase start.context := .idle
  have all : Equipped (points.findSome? EntryPoint.setup?)
      ((pipeline.outcomes points start).findSome? failureOf?)
      (pipeline.history points start).phase (pipeline.history points start).context :=
    history_equipped initial points
  constructor
  case resting => exact all.mem_resting
  case idle => exact fun idle => (all.of_idle idle).2.2
  case setupFailed => exact fun failed => all.of_setupFailed failed
  case equipped =>
    intro passed
    obtain ⟨layer, blockText, configuration, block, setup, loaded, parsed, complete, context⟩ :=
      all.of_passed passed
    exact ⟨layer, blockText, configuration, block, setup, loaded, parsed,
      (FieldGroup.s3_missing_eq_none_iff configuration).mp complete, context⟩
  case present => exact fun point part used uses => has_of_uses all uses

example :
    let pipeline : Pipeline Unit := ⟨.prepare, .prepare, rfl, Script.backend {}⟩
    let finish := pipeline.history [.run ⟨"prepare", ⟨0⟩⟩,
      .setup (Layer.ofList [(.s3Bucket, "inputs")]) "0x10" ⟨"prepare", ⟨0⟩⟩] { world := () }
    finish.phase = .setupFailed ∧ finish.context.hasService = true ∧
      finish.context.block = some (.height 16) ∧
      finish.context.configuration.inputs.s3.bucket = "inputs" := by
  decide +kernel

end Pipeline

end ProverInput
