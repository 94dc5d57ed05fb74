import ProverInput.Proofs.Command.Recording
import ProverInput.Service.Scripted

/-!
Which failure an invocation reports. The failures of the seven stages are read off the settings, the
block text and the calls that were made; the main statement is that the first of them, and nothing
else, decides how the invocation ends.
-/

namespace ProverInput

variable {World : Type}

namespace Stage

def lifecycle : List Stage :=
  [.config, .serviceCreate, .serviceStart, .blockNumber, .validation, .run, .teardown]

def setup : List Stage :=
  [.config, .serviceCreate, .serviceStart, .blockNumber, .validation]

end Stage

structure ErrorReport where
  stage : Stage
  code : String
  text : String
  hint : String
  details : List String
  deriving DecidableEq, Repr

def Failure.report (failure : Failure) : ErrorReport :=
  ⟨failure.stage, failure.code, failure.text, failure.hint, failure.details⟩

def thrown? : Except Problem Unit → Option ErrorReport
  | .error (.failure failure) => some failure.report
  | _ => none

namespace Pipeline

def createReport? : CallRecord → Option ErrorReport
  | ⟨.create _, .gaveUp fault⟩ => some ⟨.serviceCreate, "E_SERVICE_CREATE",
      "failed to create prover inputs service: " ++ fault.message,
      "Check --chain-rpc-url and the store settings", []⟩
  | ⟨.create _, .absent⟩ => some ⟨.serviceCreate, "E_SERVICE_CREATE",
      "failed to create prover inputs service: factory returned no service", "", []⟩
  | _ => none

def startReport? : CallRecord → Option ErrorReport
  | ⟨.start, .gaveUp fault⟩ => some ⟨.serviceStart, "E_SERVICE_START",
      "failed to start prover inputs service: " ++ fault.message,
      "Verify the chain RPC endpoint is reachable", []⟩
  | _ => none

def runReport? (command : String) : CallRecord → Option ErrorReport
  | ⟨.perform _ _ _, .gaveUp fault⟩ =>
    some ⟨.run, "E_RUN_FAILED", command ++ " failed: " ++ fault.message, "", []⟩
  | _ => none

def stopReport? : CallRecord → Option ErrorReport
  | ⟨.stop, .gaveUp fault⟩ => some ⟨.teardown, "E_SERVICE_STOP",
      "failed to stop prover inputs service: " ++ fault.message, "", []⟩
  | _ => none

def blockReport (cause : BlockError) : ErrorReport :=
  ⟨.blockNumber, "E_INVALID_BLOCK_NUMBER", "invalid block number: " ++ cause.message,
    "Use a decimal or 0x-prefixed height, or one of latest, earliest, pending, safe, finalized", []⟩

def storageReport (missing : MissingFields) : ErrorReport :=
  ⟨.validation, "E_S3_CONFIG_INCOMPLETE", missing.message,
    "Set --s3-bucket, --s3-access-key, --s3-secret-key and --s3-region together, or none of them",
    missing.names⟩

/-- The failure of a stage, if it has one. A stage that calls the backend has none before its call
was made. -/
def reportAt? (pipeline : Pipeline World) (layer : Layer) (blockText : String)
    (calls : List CallRecord) : Stage → Option ErrorReport
  | .config => match Configuration.load layer with
    | .error cause => some ⟨.config, cause.code, cause.text, cause.hint, []⟩
    | .ok _ => none
  | .serviceCreate => calls.findSome? createReport?
  | .serviceStart => calls.findSome? startReport?
  | .blockNumber => match BlockRef.parse blockText with
    | .error cause => some (blockReport cause)
    | .ok _ => none
  | .validation => match Configuration.load layer with
    | .error _ => none
    | .ok configuration => (FieldGroup.s3.missing? configuration).map storageReport
  | .run => calls.findSome? (runReport? pipeline.command.name)
  | .teardown => calls.findSome? stopReport?
  | .output => none

def firstReport? (pipeline : Pipeline World) (layer : Layer) (blockText : String)
    (calls : List CallRecord) : Option ErrorReport :=
  Stage.lifecycle.findSome? (pipeline.reportAt? layer blockText calls)

/-- How an invocation ends, from its failures and its calls. -/
structure Verdict (pipeline : Pipeline World) (layer : Layer) (blockText : String)
    (invocation : Invocation) (calls : List CallRecord) (result : Except Problem Unit)
    (phase : Phase) : Prop where
  reported : thrown? result = pipeline.firstReport? layer blockText calls
  succeeded : result = .ok () ↔ pipeline.firstReport? layer blockText calls = none
  attempted : ∀ configuration, Configuration.load layer = .ok configuration →
    ∃ created, calls[0]? = some ⟨.create configuration, created⟩ ∧
      (created = .returned → ∃ started, calls[1]? = some ⟨.start, started⟩)
  setupFailed : ∀ stage ∈ Stage.setup, pipeline.reportAt? layer blockText calls stage ≠ none →
    phase = .setupFailed ∧ ∀ record ∈ calls, record.call ≠ .stop ∧
      ∀ operation block command, record.call ≠ .perform operation block command
  setupPassed : (∀ stage ∈ Stage.setup, pipeline.reportAt? layer blockText calls stage = none) →
    ∃ configuration block, Configuration.load layer = .ok configuration ∧
      BlockRef.parse blockText = .ok block ∧
      calls.map CallRecord.call = [.create configuration, .start,
        .perform pipeline.operation block invocation.command, .stop] ∧
      (result = .ok () → phase = .completed) ∧ (result ≠ .ok () → phase = .failed)
  runFailed : ∀ report, pipeline.reportAt? layer blockText calls .run = some report →
    thrown? result = some report
  stopFailed : ∀ report, pipeline.reportAt? layer blockText calls .teardown = some report →
    (thrown? result = some report ↔ pipeline.reportAt? layer blockText calls .run = none)

variable {pipeline : Pipeline World} {layer : Layer} {blockText : String}
  {invocation : Invocation} {start finish : Run World} {calls : List CallRecord}

theorem SetupCourse.stage_mem {failure : Failure}
    (course : SetupCourse pipeline layer blockText invocation start (.error failure) finish calls) :
    failure.stage ∈ Stage.setup := by
  cases course <;> simp [Failure.stage, Stage.setup]

theorem SetupCourse.reportAt_stage {failure : Failure}
    (course : SetupCourse pipeline layer blockText invocation start (.error failure) finish calls) :
    pipeline.reportAt? layer blockText calls failure.stage = some failure.report := by
  cases course with
  | configRejected rejected =>
      simp only [Failure.stage, reportAt?, rejected]
      rfl
  | createFailed loaded failed => rfl
  | serviceAbsent loaded absent => rfl
  | startFailed loaded created failed => rfl
  | blockRejected loaded created started rejected =>
      simp only [Failure.stage, reportAt?, rejected]
      rfl
  | storageIncomplete loaded created started parsed incomplete =>
      simp only [Failure.stage, reportAt?, loaded, incomplete]
      rfl

theorem SetupCourse.firstReport_eq {failure : Failure}
    (course : SetupCourse pipeline layer blockText invocation start (.error failure) finish calls) :
    pipeline.firstReport? layer blockText calls = some failure.report := by
  have failed := course.reportAt_stage
  simp only [firstReport?, Stage.lifecycle, List.findSome?]
  cases course with
  | configRejected rejected =>
      simp only [Failure.stage] at failed
      rw [failed]
  | createFailed loaded createFailed =>
      simp only [Failure.stage] at failed
      rw [failed]
      simp only [reportAt?, loaded]
  | serviceAbsent loaded absent =>
      simp only [Failure.stage] at failed
      rw [failed]
      simp only [reportAt?, loaded]
  | startFailed loaded created startFailed =>
      simp only [Failure.stage] at failed
      rw [failed]
      simp only [reportAt?, loaded, List.findSome?, createReport?]
  | blockRejected loaded created started rejected =>
      simp only [Failure.stage] at failed
      rw [failed]
      simp only [reportAt?, loaded, setupCalls, List.findSome?, createReport?, startReport?]
  | storageIncomplete loaded created started parsed incomplete =>
      simp only [Failure.stage] at failed
      rw [failed]
      simp only [reportAt?, loaded, parsed, setupCalls, List.findSome?, createReport?,
        startReport?]

theorem SetupCourse.calls_setup {result : Except Failure Unit}
    (course : SetupCourse pipeline layer blockText invocation start result finish calls) :
    ∀ record ∈ calls, record.call ≠ .stop ∧
      ∀ operation block command, record.call ≠ .perform operation block command := by
  cases course <;> simp [setupCalls]

theorem SetupCourse.attempted {result : Except Failure Unit}
    (course : SetupCourse pipeline layer blockText invocation start result finish calls)
    {configuration : Configuration} (loaded : Configuration.load layer = .ok configuration) :
    ∃ created, calls[0]? = some ⟨.create configuration, created⟩ ∧
      (created = .returned → ∃ started, calls[1]? = some ⟨.start, started⟩) := by
  have same {other : Configuration} (loadedOther : Configuration.load layer = .ok other) :
      other = configuration := by
    rw [loaded] at loadedOther
    exact (Except.ok.inj loadedOther).symm
  cases course with
  | configRejected rejected =>
      rw [loaded] at rejected
      contradiction
  | createFailed loadedAs failed =>
      obtain rfl := same loadedAs
      exact ⟨_, rfl, by simp⟩
  | serviceAbsent loadedAs absent =>
      obtain rfl := same loadedAs
      exact ⟨_, rfl, by simp⟩
  | startFailed loadedAs created failed =>
      obtain rfl := same loadedAs
      exact ⟨_, rfl, fun _ => ⟨_, rfl⟩⟩
  | blockRejected loadedAs created started rejected =>
      obtain rfl := same loadedAs
      exact ⟨_, rfl, fun _ => ⟨_, rfl⟩⟩
  | storageIncomplete loadedAs created started parsed incomplete =>
      obtain rfl := same loadedAs
      exact ⟨_, rfl, fun _ => ⟨_, rfl⟩⟩
  | ready loadedAs created started parsed complete =>
      obtain rfl := same loadedAs
      exact ⟨_, rfl, fun _ => ⟨_, rfl⟩⟩

theorem SetupCourse.reportAt_later {result : Except Failure Unit}
    (course : SetupCourse pipeline layer blockText invocation start result finish calls) :
    pipeline.reportAt? layer blockText calls .run = none ∧
      pipeline.reportAt? layer blockText calls .teardown = none := by
  cases course <;> exact ⟨rfl, rfl⟩

theorem SetupCourse.verdict {failure : Failure}
    (course : SetupCourse pipeline layer blockText invocation start (.error failure) finish calls) :
    Verdict pipeline layer blockText invocation calls (.error (.failure failure)) .setupFailed := by
  have first := course.firstReport_eq
  have failed := course.reportAt_stage
  obtain ⟨unrun, unstopped⟩ := course.reportAt_later
  constructor
  case reported => rw [first, thrown?]
  case succeeded => simp [first]
  case attempted =>
    intro configuration loaded
    exact course.attempted loaded
  case setupFailed =>
    intro _ _ _
    exact ⟨rfl, course.calls_setup⟩
  case setupPassed =>
    intro passed
    rw [passed failure.stage course.stage_mem] at failed
    contradiction
  case runFailed =>
    intro report failedRun
    rw [unrun] at failedRun
    contradiction
  case stopFailed =>
    intro report failedStop
    rw [unstopped] at failedStop
    contradiction

/-! An invocation whose setup passed. Only the operation and the stop are left to fail. -/

theorem SetupCourse.reportAt_setup
    (course : SetupCourse pipeline layer blockText invocation start (.ok ()) finish calls)
    (performed stopped : CallEnd) (command : String) (block : BlockRef) :
    ∀ stage ∈ Stage.setup, pipeline.reportAt? layer blockText
      (calls ++ [⟨.perform pipeline.operation block command, performed⟩, ⟨.stop, stopped⟩]) stage =
        none := by
  obtain ⟨configuration, resolved, loaded, parsed, complete, _, _, rfl⟩ := course.ready_run
  intro stage member
  simp only [Stage.setup, List.mem_cons, List.not_mem_nil, or_false] at member
  rcases member with rfl | rfl | rfl | rfl | rfl
  · simp only [reportAt?, loaded]
  · rfl
  · rfl
  · simp only [reportAt?, parsed]
  · simp only [reportAt?, loaded, complete, Option.map_none]

theorem firstReport_of_setup (passed : ∀ stage ∈ Stage.setup,
      pipeline.reportAt? layer blockText calls stage = none) :
    pipeline.firstReport? layer blockText calls =
      (pipeline.reportAt? layer blockText calls .run).or
        (pipeline.reportAt? layer blockText calls .teardown) := by
  have split : Stage.lifecycle = Stage.setup ++ [.run, .teardown] := rfl
  rw [firstReport?, split, List.findSome?_append, List.findSome?_eq_none_iff.mpr passed]
  simp only [Option.none_or, List.findSome?]
  cases pipeline.reportAt? layer blockText calls .run with
  | none => cases pipeline.reportAt? layer blockText calls .teardown <;> rfl
  | some report => rfl

theorem reportAt_stopped (pipeline : Pipeline World) (layer : Layer) (blockText : String)
    (configuration : Configuration) (block : BlockRef) (command : String)
    (performed stopped : CallEnd) :
    pipeline.reportAt? layer blockText (setupCalls configuration ++
        [⟨.perform pipeline.operation block command, performed⟩, ⟨.stop, stopped⟩]) .run =
      runReport? pipeline.command.name ⟨.perform pipeline.operation block command, performed⟩ ∧
    pipeline.reportAt? layer blockText (setupCalls configuration ++
        [⟨.perform pipeline.operation block command, performed⟩, ⟨.stop, stopped⟩]) .teardown =
      stopReport? ⟨.stop, stopped⟩ := by
  constructor
  · cases performed <;> rfl
  · cases stopped <;> rfl

theorem SetupCourse.verdict_of_stopped {ready : Run World} {block : BlockRef}
    {performed stopped : CallEnd} {result : Except Problem Unit} {phase : Phase}
    (course : SetupCourse pipeline layer blockText invocation start (.ok ()) ready calls)
    (resolved : ready.context.block = some block)
    (thrown : thrown? result =
      (runReport? pipeline.command.name
        ⟨.perform pipeline.operation block invocation.command, performed⟩).or
        (stopReport? ⟨.stop, stopped⟩))
    (normal : result = .ok () ↔ thrown? result = none)
    (completed : result = .ok () → phase = .completed)
    (failed : result ≠ .ok () → phase = .failed) :
    Verdict pipeline layer blockText invocation
      (calls ++ [⟨.perform pipeline.operation block invocation.command, performed⟩,
        ⟨.stop, stopped⟩]) result phase := by
  have passed := course.reportAt_setup performed stopped invocation.command block
  have first := firstReport_of_setup passed
  obtain ⟨configuration, parsedBlock, loaded, parsed, _, _, context, rfl⟩ := course.ready_run
  rw [context] at resolved
  obtain rfl : parsedBlock = block := Option.some.inj resolved
  obtain ⟨runReport, stopReport⟩ := pipeline.reportAt_stopped layer blockText configuration
    parsedBlock invocation.command performed stopped
  rw [runReport, stopReport, ← thrown] at first
  constructor
  case reported => exact first.symm
  case succeeded => rw [first, normal]
  case attempted =>
    intro other loadedOther
    obtain rfl : configuration = other := Except.ok.inj (loaded.symm.trans loadedOther)
    exact ⟨_, rfl, fun _ => ⟨_, rfl⟩⟩
  case setupFailed =>
    intro stage member unmet
    exact absurd (passed stage member) unmet
  case setupPassed =>
    intro _
    exact ⟨configuration, parsedBlock, loaded, parsed, rfl, completed, failed⟩
  case runFailed =>
    intro report failedRun
    rw [runReport] at failedRun
    rw [thrown, failedRun, Option.some_or]
  case stopFailed =>
    intro report failedStop
    rw [stopReport] at failedStop
    rw [thrown, runReport, failedStop]
    cases performed with
    | returned => simp [runReport?]
    | absent => simp [runReport?]
    | gaveUp fault =>
        cases stopped with
        | returned => simp [stopReport?] at failedStop
        | absent => simp [stopReport?] at failedStop
        | gaveUp later =>
            -- The reports of the operation and of the stop differ in their stage.
            obtain rfl := Option.some.inj failedStop
            simp [runReport?]

theorem InvokeCourse.verdict {result : Except Failure Unit}
    (course : InvokeCourse pipeline layer blockText invocation start result finish calls) :
    Verdict pipeline layer blockText invocation calls (answer result) finish.phase := by
  cases course with
  | setupFailed setupCourse => exact setupCourse.verdict
  | completed setupCourse resolved performed stopping =>
      apply setupCourse.verdict_of_stopped resolved
      · rfl
      · simp [answer, thrown?]
      · exact fun _ => rfl
      · exact fun abnormal => absurd rfl abnormal
  | stopFailed setupCourse resolved performed failed =>
      apply setupCourse.verdict_of_stopped resolved
      · rfl
      · simp [answer, thrown?]
      · simp [answer]
      · exact fun _ => rfl
  | runFailed setupCourse resolved failed stopped =>
      apply setupCourse.verdict_of_stopped resolved
      · rfl
      · simp [answer, thrown?]
      · simp [answer]
      · exact fun _ => rfl
  | bothFailed setupCourse resolved failed failedToo =>
      apply setupCourse.verdict_of_stopped resolved
      · rfl
      · simp [answer, thrown?]
      · simp [answer]
      · exact fun _ => rfl

/-- An idle pipeline that is invoked reports its first failure, and returns when there is none. -/
theorem invoke_reports_first_failure (pipeline : Pipeline World) (layer : Layer)
    (blockText : String) (invocation : Invocation) (start : Run World)
    (idle : start.phase = .idle) :
    Verdict pipeline layer blockText invocation
      (pipeline.recorded.invoke layer blockText invocation (start.withCalls [])).2.calls
      (pipeline.invoke layer blockText invocation start).1
      (pipeline.invoke layer blockText invocation start).2.phase := by
  obtain ⟨result, finish, calls, course⟩ :=
    exists_invokeCourse pipeline layer blockText invocation start
  rw [course.invoke_eq idle, course.recorded_invoke_eq idle []]
  exact course.verdict

theorem invoke_reports_failure_of_operation :
    let pipeline : Pipeline Unit := ⟨.generate, .generate, rfl,
      Script.backend { performFault := some (.other "no data"), stopFault := some .notRunning }⟩
    let start : Run Unit := { world := () }
    start.phase = .idle ∧
      thrown? (pipeline.invoke {} "latest" ⟨"generate", ⟨0⟩⟩ start).1 =
        some ⟨.run, "E_RUN_FAILED", "generate failed: no data", "", []⟩ := by
  intro pipeline start
  have verdict := invoke_reports_first_failure pipeline {} "latest" ⟨"generate", ⟨0⟩⟩ start rfl
  exact ⟨rfl, verdict.runFailed _ (by rfl)⟩

end Pipeline

end ProverInput
