import ProverInput.Proofs.Command.Invoke

/-!
Pipelines whose calls are recorded. Recording changes nothing that can be seen from outside: a
recorded pipeline takes the same course, and what it adds to the record are the calls of the course.
-/

namespace ProverInput

variable {World α : Type}

def Run.withCalls (run : Run World) (calls : List CallRecord) : Run (World × List CallRecord) :=
  ⟨run.phase, run.context, (run.world, calls), run.session⟩

def Run.calls (run : Run (World × List CallRecord)) : List CallRecord :=
  run.world.2

def Pipeline.recorded (pipeline : Pipeline World) : Pipeline (World × List CallRecord) :=
  ⟨pipeline.command, pipeline.operation, pipeline.bound, pipeline.backend.recorded⟩

def CallEnd.ofResult (ended : α → CallEnd) : Except Fault α → CallEnd
  | .ok value => ended value
  | .error cause => .gaveUp cause

theorem Run.called_record {run after : Run World} {procedure : Procedure World α}
    {result : Except Fault α} (outcome : run.called procedure = (result, after)) (call : Call)
    (ended : α → CallEnd) (calls : List CallRecord) :
    (run.withCalls calls).called (Backend.record call ended procedure) =
      (result, after.withCalls (calls ++ [⟨call, .ofResult ended result⟩])) := by
  have performed := Session.perform_bind run.session (procedure run.world)
    fun answer => Work.done (answer.1, answer.2, calls ++ [⟨call, .ofResult ended answer.1⟩])
  have work : Backend.record call ended procedure (run.world, calls) = procedure run.world >>=
      fun answer => .done (answer.1, answer.2, calls ++ [⟨call, .ofResult ended answer.1⟩]) := by
    change Work.bind _ _ = Work.bind _ _
    congr 1
  simp only [called, withCalls] at outcome ⊢
  rw [work, performed]
  obtain ⟨rfl, rfl⟩ := Prod.mk.inj outcome
  rfl

namespace Pipeline

variable {pipeline : Pipeline World} {layer : Layer} {blockText : String}
  {invocation : Invocation} {start finish : Run World} {calls : List CallRecord}

theorem creation_recorded {configuration : Configuration} {result : Except Fault Bool}
    {created : Run World}
    (creation : (pipeline.configured configuration blockText start).called
      (pipeline.backend.create configuration) = (result, created)) (before : List CallRecord) :
    (pipeline.recorded.configured configuration blockText (start.withCalls before)).called
      (pipeline.recorded.backend.create configuration) =
        (result, created.withCalls (before ++ [⟨.create configuration,
          .ofResult (fun present => if present then .returned else .absent) result⟩])) :=
  Run.called_record creation _ _ before

theorem starting_recorded {created started : Run World} {result : Except Fault Unit}
    (starting : (pipeline.serviceCreated created).called (pipeline.backend.start invocation) =
      (result, started)) (before : List CallRecord) :
    (pipeline.recorded.serviceCreated (created.withCalls before)).called
      (pipeline.recorded.backend.start invocation) =
        (result, started.withCalls (before ++ [⟨.start, .ofResult (fun _ => .returned) result⟩])) :=
  Run.called_record starting _ _ before

theorem SetupCourse.recorded {result : Except Failure Unit}
    (course : SetupCourse pipeline layer blockText invocation start result finish calls)
    (before : List CallRecord) :
    SetupCourse pipeline.recorded layer blockText invocation (start.withCalls before) result
      (finish.withCalls (before ++ calls)) calls := by
  cases course with
  | configRejected rejected =>
      rw [List.append_nil]
      exact .configRejected rejected
  | createFailed loaded failed =>
      exact .createFailed loaded (creation_recorded failed before)
  | serviceAbsent loaded absent =>
      exact .serviceAbsent loaded (creation_recorded absent before)
  | startFailed loaded created failed =>
      rw [List.append_cons]
      exact .startFailed loaded (creation_recorded created before) (starting_recorded failed _)
  | blockRejected loaded created started rejected =>
      rw [setupCalls, List.append_cons]
      exact .blockRejected loaded (creation_recorded created before)
        (starting_recorded started _) rejected
  | storageIncomplete loaded created started parsed incomplete =>
      rw [setupCalls, List.append_cons]
      exact .storageIncomplete loaded (creation_recorded created before)
        (starting_recorded started _) parsed incomplete
  | ready loaded created started parsed complete =>
      rw [setupCalls, List.append_cons]
      exact .ready loaded (creation_recorded created before) (starting_recorded started _) parsed
        complete

theorem performing_recorded {ready ran : Run World} {block : BlockRef} {result : Except Fault Unit}
    (performing : (pipeline.commandRun block ready).called
      (pipeline.backend.perform pipeline.operation invocation block) = (result, ran))
    (before : List CallRecord) :
    (pipeline.recorded.commandRun block (ready.withCalls before)).called
      (pipeline.recorded.backend.perform pipeline.recorded.operation invocation block) =
        (result, ran.withCalls (before ++ [⟨.perform pipeline.operation block invocation.command,
          .ofResult (fun _ => .returned) result⟩])) :=
  Run.called_record performing _ _ before

theorem stopping_recorded {ran stopped : Run World} {phase : Phase} {result : Except Fault Unit}
    (stopping : (ran.enter phase).called (pipeline.backend.stop invocation) = (result, stopped))
    (before : List CallRecord) :
    ((ran.withCalls before).enter phase).called (pipeline.recorded.backend.stop invocation) =
      (result, stopped.withCalls (before ++ [⟨.stop, .ofResult (fun _ => .returned) result⟩])) :=
  Run.called_record stopping _ _ before

theorem InvokeCourse.recorded {result : Except Failure Unit}
    (course : InvokeCourse pipeline layer blockText invocation start result finish calls)
    (before : List CallRecord) :
    InvokeCourse pipeline.recorded layer blockText invocation (start.withCalls before) result
      (finish.withCalls (before ++ calls)) calls := by
  cases course with
  | setupFailed setupCourse => exact .setupFailed (setupCourse.recorded before)
  | completed setupCourse resolved performed stopped =>
      rw [← List.append_assoc, List.append_cons]
      exact .completed (setupCourse.recorded before) resolved (performing_recorded performed _)
        (stopping_recorded stopped _)
  | stopFailed setupCourse resolved performed failed =>
      rw [← List.append_assoc, List.append_cons]
      exact .stopFailed (setupCourse.recorded before) resolved (performing_recorded performed _)
        (stopping_recorded failed _)
  | runFailed setupCourse resolved failed stopped =>
      rw [← List.append_assoc, List.append_cons]
      exact .runFailed (setupCourse.recorded before) resolved (performing_recorded failed _)
        (stopping_recorded stopped _)
  | bothFailed setupCourse resolved failed failedToo =>
      rw [← List.append_assoc, List.append_cons]
      exact .bothFailed (setupCourse.recorded before) resolved (performing_recorded failed _)
        (stopping_recorded failedToo _)

/-- A recorded invocation ends as it would without a record, and the record grows by the calls of
its course. -/
theorem InvokeCourse.recorded_invoke_eq {result : Except Failure Unit} (idle : start.phase = .idle)
    (course : InvokeCourse pipeline layer blockText invocation start result finish calls)
    (before : List CallRecord) :
    pipeline.recorded.invoke layer blockText invocation (start.withCalls before) =
      (answer result, finish.withCalls (before ++ calls)) :=
  (course.recorded before).invoke_eq idle

end Pipeline

end ProverInput
