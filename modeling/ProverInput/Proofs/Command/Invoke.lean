import ProverInput.Proofs.Command.Setup

/-!
The courses that a whole invocation can take: setup fails, or the operation and the stop are both
called and each of them may fail.
-/

namespace ProverInput.Pipeline

variable {World : Type}

def answer : Except Failure Unit → Except Problem Unit
  | .ok () => .ok ()
  | .error failure => .error (.failure failure)

def commandRun (pipeline : Pipeline World) (block : BlockRef) (run : Run World) : Run World :=
  run.report .info "command.run" [("command", pipeline.command.name),
    ("operation", pipeline.operation.name), ("block", block.text)]

def serviceStopped (pipeline : Pipeline World) (phase : Phase) (run : Run World) : Run World :=
  (run.enter phase).report .info "service.stopped" [("command", pipeline.command.name)]

def commandCompleted (pipeline : Pipeline World) (block : BlockRef) (run : Run World) :
    Run World :=
  run.report .info "command.completed" [("command", pipeline.command.name), ("block", block.text)]

def stopFailed (pipeline : Pipeline World) (severity : Log.Severity) (fault : Fault)
    (run : Run World) : Run World :=
  (run.enter .failed).report severity "service.stop_failed"
    [("command", pipeline.command.name), ("error", (Failure.stop fault).text)]

variable {pipeline : Pipeline World} {layer : Layer} {blockText : String}
  {invocation : Invocation} {start finish : Run World} {calls : List CallRecord}

theorem run_of_not_ready (unready : start.phase ≠ .ready) :
    pipeline.run invocation start = (.error (.misuse .runOutOfTurn), start) := by
  simp only [run, Action.bind_apply, Action.get_apply]
  cases phase : start.phase with
  | ready => exact absurd phase unready
  | _ => rfl

theorem run_of_ready {block : BlockRef} (ready : start.phase = .ready)
    (resolved : start.context.block = some block) :
    pipeline.run invocation start =
      match (pipeline.commandRun block start).called
          (pipeline.backend.perform pipeline.operation invocation block) with
      | (.ok (), after) => (.ok (), after.enter .ran)
      | (.error fault, after) =>
        (.error (.failure (.run pipeline.command.name fault)), after.enter .runFailed) := by
  have reported : start.report .info "command.run" [("command", pipeline.command.name),
      ("operation", pipeline.operation.name), ("block", block.text)] =
        pipeline.commandRun block start := rfl
  simp only [run, Action.bind_apply, Action.get_apply, ready, resolved, Action.report_apply,
    Action.call_apply, reported]
  rcases (pipeline.commandRun block start).called
    (pipeline.backend.perform pipeline.operation invocation block) with ⟨fault | done, after⟩
  · rfl
  · rfl

theorem teardown_of_not_run (unrun : start.phase ≠ .ran ∧ start.phase ≠ .runFailed) :
    pipeline.teardown invocation start = (.error (.misuse .teardownOutOfTurn), start) := by
  simp only [teardown, Action.bind_apply, Action.get_apply, unrun, or_self, if_false,
    Action.throw_apply]

theorem teardown_of_ran (ran : start.phase = .ran) :
    pipeline.teardown invocation start = match start.called (pipeline.backend.stop invocation) with
      | (.ok (), after) => (.ok (), pipeline.serviceStopped .completed after)
      | (.error fault, after) =>
        (.error (.failure (.stop fault)), pipeline.stopFailed .error fault after) := by
  simp only [teardown, Action.bind_apply, Action.get_apply, ran, true_or, if_true,
    Action.call_apply]
  rcases start.called (pipeline.backend.stop invocation) with ⟨fault | done, after⟩
  · rfl
  · rfl

theorem teardown_of_runFailed (failed : start.phase = .runFailed) :
    pipeline.teardown invocation start = match start.called (pipeline.backend.stop invocation) with
      | (.ok (), after) => (.ok (), pipeline.serviceStopped .failed after)
      | (.error fault, after) =>
        (.error (.failure (.stop fault)), pipeline.stopFailed .warning fault after) := by
  simp only [teardown, Action.bind_apply, Action.get_apply, failed, or_true, if_true,
    Action.call_apply]
  rcases start.called (pipeline.backend.stop invocation) with ⟨fault | done, after⟩
  · rfl
  · rfl

/-- How an invocation of an idle pipeline can go. Once setup has passed, the operation and the stop
are called, and a failure of the operation hides one of the stop. -/
inductive InvokeCourse (pipeline : Pipeline World) (layer : Layer) (blockText : String)
    (invocation : Invocation) (start : Run World) :
    Except Failure Unit → Run World → List CallRecord → Prop
  | setupFailed {failure after calls} :
      SetupCourse pipeline layer blockText invocation start (.error failure) after calls →
      InvokeCourse pipeline layer blockText invocation start (.error failure)
        (pipeline.commandFailed failure (after.enter .setupFailed)) calls
  | completed {ready block ran stopped calls} :
      SetupCourse pipeline layer blockText invocation start (.ok ()) ready calls →
      ready.context.block = some block →
      (pipeline.commandRun block ready).called
        (pipeline.backend.perform pipeline.operation invocation block) = (.ok (), ran) →
      (ran.enter .ran).called (pipeline.backend.stop invocation) = (.ok (), stopped) →
      InvokeCourse pipeline layer blockText invocation start (.ok ())
        (pipeline.commandCompleted block (pipeline.serviceStopped .completed stopped))
        (calls ++ [⟨.perform pipeline.operation block invocation.command, .returned⟩,
          ⟨.stop, .returned⟩])
  | stopFailed {ready block ran fault stopped calls} :
      SetupCourse pipeline layer blockText invocation start (.ok ()) ready calls →
      ready.context.block = some block →
      (pipeline.commandRun block ready).called
        (pipeline.backend.perform pipeline.operation invocation block) = (.ok (), ran) →
      (ran.enter .ran).called (pipeline.backend.stop invocation) = (.error fault, stopped) →
      InvokeCourse pipeline layer blockText invocation start (.error (.stop fault))
        (pipeline.commandFailed (.stop fault) (pipeline.stopFailed .error fault stopped))
        (calls ++ [⟨.perform pipeline.operation block invocation.command, .returned⟩,
          ⟨.stop, .gaveUp fault⟩])
  | runFailed {ready block fault ran stopped calls} :
      SetupCourse pipeline layer blockText invocation start (.ok ()) ready calls →
      ready.context.block = some block →
      (pipeline.commandRun block ready).called
        (pipeline.backend.perform pipeline.operation invocation block) = (.error fault, ran) →
      (ran.enter .runFailed).called (pipeline.backend.stop invocation) = (.ok (), stopped) →
      InvokeCourse pipeline layer blockText invocation start
        (.error (.run pipeline.command.name fault))
        (pipeline.commandFailed (.run pipeline.command.name fault)
          (pipeline.serviceStopped .failed stopped))
        (calls ++ [⟨.perform pipeline.operation block invocation.command, .gaveUp fault⟩,
          ⟨.stop, .returned⟩])
  | bothFailed {ready block fault ran later stopped calls} :
      SetupCourse pipeline layer blockText invocation start (.ok ()) ready calls →
      ready.context.block = some block →
      (pipeline.commandRun block ready).called
        (pipeline.backend.perform pipeline.operation invocation block) = (.error fault, ran) →
      (ran.enter .runFailed).called (pipeline.backend.stop invocation) = (.error later, stopped) →
      InvokeCourse pipeline layer blockText invocation start
        (.error (.run pipeline.command.name fault))
        (pipeline.commandFailed (.run pipeline.command.name fault)
          (pipeline.stopFailed .warning later stopped))
        (calls ++ [⟨.perform pipeline.operation block invocation.command, .gaveUp fault⟩,
          ⟨.stop, .gaveUp later⟩])

theorem invoke_of_not_idle (busy : start.phase ≠ .idle) :
    pipeline.invoke layer blockText invocation start =
      (.error (.misuse .setupRepeated), start) := by
  simp only [invoke, Action.bind_apply, setup_of_not_idle busy]

theorem InvokeCourse.invoke_eq {result : Except Failure Unit} (idle : start.phase = .idle)
    (course : InvokeCourse pipeline layer blockText invocation start result finish calls) :
    pipeline.invoke layer blockText invocation start = (answer result, finish) := by
  have phase_entered (run : Run World) (phase : Phase) : (run.enter phase).phase = phase := rfl
  simp only [invoke, Action.bind_apply, Action.outcome_apply]
  cases course with
  | setupFailed setupCourse =>
      simp only [setupCourse.setup_eq_of_error idle, answer]
  | @completed ready block ran stopped _ setupCourse resolved performed stopping =>
      obtain ⟨_, _, _, _, _, isReady, _⟩ := setupCourse.ready_run
      have kept : ran.context = (pipeline.commandRun block ready).context :=
        Run.context_of_called performed
      have keptStill : stopped.context = (ran.enter .ran).context :=
        Run.context_of_called stopping
      have resolvedStill :
          (pipeline.serviceStopped .completed stopped).context.block = some block :=
        calc (pipeline.serviceStopped .completed stopped).context.block
            _ = ran.context.block := congrArg Context.block keptStill
            _ = ready.context.block := congrArg Context.block kept
            _ = some block := resolved
      simp only [setupCourse.setup_eq_of_ok idle, run_of_ready isReady resolved, performed,
        teardown_of_ran (phase_entered ran .ran), stopping, Action.bind_apply, Action.get_apply,
        Action.report_apply, resolvedStill, answer, commandCompleted, Option.map_some,
        Option.getD_some]
  | @stopFailed ready block ran fault stopped _ setupCourse resolved performed stopping =>
      obtain ⟨_, _, _, _, _, isReady, _⟩ := setupCourse.ready_run
      simp only [setupCourse.setup_eq_of_ok idle, run_of_ready isReady resolved, performed,
        teardown_of_ran (phase_entered ran .ran), stopping, reportFailure, Action.bind_apply,
        Action.get_apply, Action.report_apply, Action.throw_apply, answer, commandFailed]
  | @runFailed ready block fault ran stopped _ setupCourse resolved performed stopping =>
      obtain ⟨_, _, _, _, _, isReady, _⟩ := setupCourse.ready_run
      simp only [setupCourse.setup_eq_of_ok idle, run_of_ready isReady resolved, performed,
        teardown_of_runFailed (phase_entered ran .runFailed), stopping, reportFailure,
        Action.bind_apply, Action.get_apply, Action.report_apply, Action.throw_apply,
        answer, commandFailed]
  | @bothFailed ready block fault ran later stopped _ setupCourse resolved performed stopping =>
      obtain ⟨_, _, _, _, _, isReady, _⟩ := setupCourse.ready_run
      simp only [setupCourse.setup_eq_of_ok idle, run_of_ready isReady resolved, performed,
        teardown_of_runFailed (phase_entered ran .runFailed), stopping, reportFailure,
        Action.bind_apply, Action.get_apply, Action.report_apply, Action.throw_apply,
        answer, commandFailed]

theorem exists_invokeCourse (pipeline : Pipeline World) (layer : Layer) (blockText : String)
    (invocation : Invocation) (start : Run World) :
    ∃ result finish calls,
      InvokeCourse pipeline layer blockText invocation start result finish calls := by
  obtain ⟨result, ready, calls, setupCourse⟩ :=
    exists_setupCourse pipeline layer blockText invocation start
  rcases result with failure | done
  · exact ⟨_, _, _, .setupFailed setupCourse⟩
  · obtain ⟨_, block, _, _, _, _, holds, _⟩ := setupCourse.ready_run
    have resolved : ready.context.block = some block := by rw [holds]
    rcases performed : (pipeline.commandRun block ready).called
        (pipeline.backend.perform pipeline.operation invocation block) with ⟨fault | done, ran⟩
    · rcases stopping : (ran.enter .runFailed).called (pipeline.backend.stop invocation) with
        ⟨later | done, stopped⟩
      · exact ⟨_, _, _, .bothFailed setupCourse resolved performed stopping⟩
      · exact ⟨_, _, _, .runFailed setupCourse resolved performed stopping⟩
    · rcases stopping : (ran.enter .ran).called (pipeline.backend.stop invocation) with
        ⟨later | done, stopped⟩
      · exact ⟨_, _, _, .stopFailed setupCourse resolved performed stopping⟩
      · exact ⟨_, _, _, .completed setupCourse resolved performed stopping⟩

end ProverInput.Pipeline
