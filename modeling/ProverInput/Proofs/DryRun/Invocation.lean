import ProverInput.Proofs.Command.Verdict
import ProverInput.Proofs.DryRun.Dispatches
import ProverInput.Proofs.FieldGroup

/-!
When an invocation that runs dry returns. Each stage has a condition on the settings and the block
text; without a cancellation these decide alone how the invocation ends, in the order of the stages.
-/

namespace ProverInput

namespace DryRun

/-- What a stage needs. Starting and stopping the service need nothing. -/
def Meets (urls : UrlLibrary) (operation : Operation) (layer : Layer) (blockText : String) :
    Stage → Prop
  | .config => ∃ configuration, Configuration.load layer = .ok configuration
  | .serviceCreate => ∀ configuration, Configuration.load layer = .ok configuration →
    configuration.chain.rpcUrl = "" ∨
      ∃ endpoint, Endpoint.parse configuration.chain.rpcUrl urls = .ok endpoint
  | .blockNumber => ∃ block, BlockRef.parse blockText = .ok block
  | .validation => ∀ configuration, Configuration.load layer = .ok configuration →
    configuration.inputs.s3.Settled
  | .run => ∀ configuration, Configuration.load layer = .ok configuration →
    configuration.chain.rpcUrl ≠ "" ∨
      ((operation = .prepare ∨ operation = .execute) ∧ configuration.chain.id.isSome = true)
  | .serviceStart | .teardown | .output => True

def dueStages (operation : Operation) : List Operation :=
  if operation = .generate then [.preflight, .prepare, .execute] else [operation]

def dueRecord (configuration : Configuration) (block : BlockRef) (format : Log.Format)
    (stage : Operation) : Log.Entry :=
  let chain := (configuration.chain.id.map fun id => toString id.toNat).getD "auto"
  let place :=
    if stage = .preflight then [("store", configuration.preflightDir)]
    else [("store", configuration.inputs.dir), ("content_type", configuration.inputs.contentType)]
  ⟨.service, ⟨.info, "stage.dispatched",
    [("stage", stage.name), ("block", block.rpcArgument), ("chain", chain)] ++ place⟩, some format⟩

/-- How an invocation ends that runs dry and is not cancelled. -/
structure Decided (urls : UrlLibrary) (operation : Operation) (layer : Layer) (blockText : String)
    (start finish : Session) (result : Except Problem Unit) : Prop where
  returns : result = .ok () ↔ ∀ stage ∈ Stage.lifecycle, Meets urls operation layer blockText stage
  firstUnmet : result ≠ .ok () → ∃ failure passed later, result = .error (.failure failure) ∧
    Stage.lifecycle = passed ++ failure.stage :: later ∧
    (∀ stage ∈ passed, Meets urls operation layer blockText stage) ∧
    ¬ Meets urls operation layer blockText failure.stage
  neverStart : ∀ failure, result = .error (.failure failure) → failure.stage ≠ .serviceStart
  neverTeardown : ∀ failure, result = .error (.failure failure) → failure.stage ≠ .teardown
  dispatched : result = .ok () → ∃ configuration block log,
    Configuration.load layer = .ok configuration ∧ BlockRef.parse blockText = .ok block ∧
    finish.entries = start.entries ++ log ∧
    (configuration.log.level = "debug" ∨ configuration.log.level = "info" →
      Log.dispatches log = (dueStages operation).map
        (dueRecord configuration block ((Log.Format.ofName? configuration.log.format).getD .text)))

theorem stages_eq_dueStages (operation : Operation) : operation.stages = dueStages operation := by
  cases operation with
  | generate => rfl
  | preflight => rfl
  | prepare => rfl
  | execute => rfl

theorem entryOf_stageOffer {configuration : Configuration} (session : Session) (block : BlockRef)
    (stage : Operation)
    (admitted : configuration.log.level = "debug" ∨ configuration.log.level = "info") :
    (session.following configuration).entryOf (stageOffer configuration block stage) =
      dueRecord configuration block ((Log.Format.ofName? configuration.log.format).getD .text)
        stage := by
  have reaches : Log.Severity.info.reaches (session.following configuration).threshold = true := by
    rcases admitted with level | level
    · simp [Session.following, Session.adopt, level, Log.Severity.ofName?, Log.Severity.reaches,
        Log.Severity.rank]
    · simp [Session.following, Session.adopt, level, Log.Severity.ofName?, Log.Severity.reaches,
        Log.Severity.rank]
  have format : (session.following configuration).format =
      (Log.Format.ofName? configuration.log.format).getD .text := rfl
  simp only [Session.entryOf, stageOffer, reaches, if_true, format, dueRecord, stageFields]
  cases configuration.chain.id <;> cases stage <;> rfl

section Conditions

variable {urls : UrlLibrary} {operation : Operation} {layer : Layer} {blockText : String}
  {configuration : Configuration}

theorem forall_loaded_iff {condition : Configuration → Prop}
    (loaded : Configuration.load layer = .ok configuration) :
    (∀ other, Configuration.load layer = .ok other → condition other) ↔
      condition configuration := by
  constructor
  · intro all
    exact all configuration loaded
  · intro holds other loadedOther
    obtain rfl : configuration = other := Except.ok.inj (loaded.symm.trans loadedOther)
    exact holds

theorem meets_serviceCreate_iff (loaded : Configuration.load layer = .ok configuration) :
    Meets urls operation layer blockText .serviceCreate ↔
      ∃ service, ofConfiguration urls configuration = .ok service := by
  rw [exists_ofConfiguration_iff]
  exact forall_loaded_iff loaded

theorem meets_validation_iff (loaded : Configuration.load layer = .ok configuration) :
    Meets urls operation layer blockText .validation ↔
      FieldGroup.s3.missing? configuration = none := by
  rw [FieldGroup.s3_missing_eq_none_iff]
  exact forall_loaded_iff loaded

theorem meets_run_iff {service : DryRun} (loaded : Configuration.load layer = .ok configuration)
    (made : ofConfiguration urls configuration = .ok service) :
    Meets urls operation layer blockText .run ↔
      service.started.obstacle? operation = none := by
  obtain ⟨same, _, online⟩ := of_ofConfiguration made
  rw [started_obstacle_eq_none_iff, online, same]
  exact forall_loaded_iff loaded

end Conditions

end DryRun

namespace Pipeline

open DryRun

variable {urls : UrlLibrary} {pipeline : Pipeline DryRun} {layer : Layer} {blockText : String}
  {invocation : Invocation} {start finish : Run DryRun} {calls : List CallRecord}

theorem Serving.meets {configuration : Configuration} {service : DryRun}
    (serving : Serving urls pipeline layer blockText invocation start configuration service) :
    Meets urls pipeline.operation layer blockText .config ∧
      Meets urls pipeline.operation layer blockText .serviceCreate :=
  ⟨⟨configuration, serving.loaded⟩,
    (meets_serviceCreate_iff serving.loaded).mpr ⟨service, serving.made⟩⟩

theorem Prepared.meets {configuration : Configuration} {service : DryRun} {block : BlockRef}
    (prepared : Prepared urls pipeline layer blockText invocation start configuration service
      block) :
    ∀ stage ∈ Stage.setup, Meets urls pipeline.operation layer blockText stage := by
  obtain ⟨config, create⟩ := prepared.toServing.meets
  intro stage member
  simp only [Stage.setup, List.mem_cons, List.not_mem_nil, or_false] at member
  rcases member with rfl | rfl | rfl | rfl | rfl
  · exact config
  · exact create
  · trivial
  · exact ⟨block, prepared.parsed⟩
  · exact (meets_validation_iff prepared.loaded).mpr prepared.complete

theorem DryCourse.meets_of_ok
    (course : DryCourse urls pipeline layer blockText invocation start (.ok ()) finish calls) :
    ∀ stage ∈ Stage.lifecycle, Meets urls pipeline.operation layer blockText stage := by
  cases course with
  | completed prepared clear unheard logged idle ended =>
      have split : Stage.lifecycle = Stage.setup ++ [.run, .teardown] := rfl
      intro stage member
      rw [split, List.mem_append] at member
      rcases member with early | late
      · exact prepared.meets stage early
      · simp only [List.mem_cons, List.not_mem_nil, or_false] at late
        rcases late with rfl | rfl
        · exact (meets_run_iff prepared.loaded prepared.made).mpr clear
        · trivial

/-- A failure is one of the first stage whose condition is not met, or a checkpoint heard of a
cancellation. -/
theorem DryCourse.unmet_or_heard {failure : Failure}
    (course : DryCourse urls pipeline layer blockText invocation start (.error failure) finish
      calls) :
    (∃ passed later, Stage.lifecycle = passed ++ failure.stage :: later ∧
      (∀ stage ∈ passed, Meets urls pipeline.operation layer blockText stage) ∧
      ¬ Meets urls pipeline.operation layer blockText failure.stage) ∨
    ∃ configuration early, heardAfter start configuration invocation early = true ∧
      Logged start finish configuration early ∧
      early.length < stageMoment pipeline.operation.stages.length := by
  cases course with
  | configRejected rejected _ =>
      refine Or.inl ⟨[], _, rfl, by simp, ?_⟩
      rintro ⟨configuration, loaded⟩
      rw [rejected] at loaded
      contradiction
  | createFailed loaded failed _ =>
      refine Or.inl ⟨[.config], _, rfl, ?_, ?_⟩
      · simpa using ⟨_, loaded⟩
      · intro met
        obtain ⟨service, made⟩ := (meets_serviceCreate_iff loaded).mp met
        rw [failed] at made
        contradiction
  | startCancelled _ _ heard logged =>
      refine Or.inr ⟨_, _, heard, logged, ?_⟩
      have moment : (createdOffers pipeline.command.name blockText).length = startMoment := rfl
      rw [moment]
      unfold startMoment stageMoment
      omega
  | blockRejected serving rejected _ =>
      refine Or.inl ⟨[.config, .serviceCreate, .serviceStart], _, rfl, ?_, ?_⟩
      · obtain ⟨config, create⟩ := serving.meets
        simp only [List.forall_mem_cons]
        exact ⟨config, create, trivial, by simp⟩
      · rintro ⟨block, parsed⟩
        rw [rejected] at parsed
        contradiction
  | storageIncomplete serving parsed incomplete _ =>
      refine Or.inl ⟨[.config, .serviceCreate, .serviceStart, .blockNumber], _, rfl, ?_, ?_⟩
      · obtain ⟨config, create⟩ := serving.meets
        simp only [List.forall_mem_cons]
        exact ⟨config, create, trivial, ⟨_, parsed⟩, by simp⟩
      · intro met
        rw [(meets_validation_iff serving.loaded).mp met] at incomplete
        contradiction
  | refused prepared obstacle _ _ =>
      refine Or.inl ⟨Stage.setup, _, rfl, prepared.meets, ?_⟩
      intro met
      rw [(meets_run_iff prepared.loaded prepared.made).mp met] at obstacle
      contradiction
  | cutShort prepared _ short _ heard logged _ =>
      refine Or.inr ⟨_, _, heard, logged, ?_⟩
      rw [offersUpTo_length (Nat.le_of_lt short)]
      exact Nat.add_lt_add_left short 6

theorem DryCourse.first_unmet {failure : Failure}
    (live : finish.session.isCancelled invocation.token = false)
    (course : DryCourse urls pipeline layer blockText invocation start (.error failure) finish
      calls) :
    ∃ passed later, Stage.lifecycle = passed ++ failure.stage :: later ∧
      (∀ stage ∈ passed, Meets urls pipeline.operation layer blockText stage) ∧
      ¬ Meets urls pipeline.operation layer blockText failure.stage := by
  rcases course.unmet_or_heard with unmet | ⟨configuration, early, heard, logged, _⟩
  · exact unmet
  · rw [logged.still_heard heard] at live
    contradiction

theorem DryCourse.dispatched
    (course : DryCourse urls pipeline layer blockText invocation start (.ok ()) finish calls) :
    ∃ configuration block log, Configuration.load layer = .ok configuration ∧
      BlockRef.parse blockText = .ok block ∧
      finish.session.entries = start.session.entries ++ log ∧
      (configuration.log.level = "debug" ∨ configuration.log.level = "info" →
        Log.dispatches log = (dueStages pipeline.operation).map (dueRecord configuration block
          ((Log.Format.ofName? configuration.log.format).getD .text))) := by
  cases course with
  | @completed configuration service block _ prepared clear unheard logged idle ended =>
      obtain ⟨tail, quiet, entries⟩ := logged.exists_log
      obtain ⟨same, _, _⟩ := of_ofConfiguration prepared.made
      refine ⟨configuration, block, _, prepared.loaded, prepared.parsed, entries, ?_⟩
      intro admitted
      rw [dispatches_upTo quiet, List.take_length, same, List.map_map, stages_eq_dueStages]
      apply List.map_congr_left
      intro stage _
      exact entryOf_stageOffer start.session block stage admitted

theorem DryCourse.decided {result : Except Failure Unit}
    (live : finish.session.isCancelled invocation.token = false)
    (course : DryCourse urls pipeline layer blockText invocation start result finish calls) :
    Decided urls pipeline.operation layer blockText start.session finish.session
      (answer result) := by
  cases result with
  | ok done =>
      constructor
      case returns => exact ⟨fun _ => course.meets_of_ok, fun _ => rfl⟩
      case firstUnmet => exact fun failed => absurd rfl failed
      case neverStart => simp [answer]
      case neverTeardown => simp [answer]
      case dispatched => exact fun _ => course.dispatched
  | error failure =>
      obtain ⟨passed, later, split, met, unmet⟩ := course.first_unmet live
      have reached : failure.stage ∈ Stage.lifecycle := by
        rw [split]
        exact List.mem_append_right passed List.mem_cons_self
      constructor
      case returns =>
        constructor
        · simp [answer]
        · intro all
          exact absurd (all failure.stage reached) unmet
      case firstUnmet => exact fun _ => ⟨failure, passed, later, rfl, split, met, unmet⟩
      case neverStart =>
        rintro _ ⟨⟩ starting
        rw [starting] at unmet
        exact unmet trivial
      case neverTeardown =>
        rintro _ ⟨⟩ stopping
        rw [stopping] at unmet
        exact unmet trivial
      case dispatched => simp [answer]

/-- An invocation that runs dry and is not cancelled returns exactly when the condition of every
stage is met; otherwise it fails in the first stage whose condition is not. -/
theorem invoke_decided_by_conditions (urls : UrlLibrary) (pipeline : Pipeline DryRun)
    (dry : pipeline.backend = DryRun.backend urls) (layer : Layer) (blockText : String)
    (invocation : Invocation) (start : Run DryRun) (idle : start.phase = .idle)
    (live : (pipeline.invoke layer blockText invocation start).2.session.isCancelled
      invocation.token = false) :
    Decided urls pipeline.operation layer blockText start.session
      (pipeline.invoke layer blockText invocation start).2.session
      (pipeline.invoke layer blockText invocation start).1 := by
  obtain ⟨result, finish, calls, course⟩ :=
    exists_invokeCourse pipeline layer blockText invocation start
  rw [course.invoke_eq idle] at live ⊢
  exact (course.dryCourse dry).decided live

theorem invoke_decided_online :
    let pipeline : Pipeline DryRun := ⟨.generate, .generate, rfl, DryRun.backend .plain⟩
    let layer := Layer.ofList [(.chainRpcUrl, "http://localhost:8545"), (.logLevel, "debug")]
    let start : Run DryRun := { world := {} }
    let finish := (pipeline.invoke layer "0x10" ⟨"generate", ⟨0⟩⟩ start).2.session
    start.phase = .idle ∧ finish.isCancelled ⟨0⟩ = false ∧
      (Log.dispatches finish.entries).length = 3 ∧
      Decided .plain .generate layer "0x10" start.session finish
        (pipeline.invoke layer "0x10" ⟨"generate", ⟨0⟩⟩ start).1 := by
  refine ⟨rfl, ?live, ?_, invoke_decided_by_conditions _ _ rfl _ _ _ _ rfl ?live⟩
  · decide +kernel
  · decide +kernel

end Pipeline

end ProverInput
