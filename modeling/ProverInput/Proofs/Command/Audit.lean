import ProverInput.Proofs.Command.Verdict
import ProverInput.Proofs.Configuration.Dump
import ProverInput.Proofs.Log.Offers

/-!
The trail that an invocation leaves in the log. A command tells every step of setup that has passed,
the run, the stop and last of all how it ended; between its events only the service's own can stand.
-/

namespace ProverInput

variable {World α : Type}

namespace Log

def commandEvents (log : List Entry) : List Event :=
  (log.filter (·.origin = .command)).map (·.event)

end Log

namespace Session

def governed (session : Session) (layer : Layer) : Session :=
  match Configuration.load layer with
  | .error _ => session
  | .ok configuration => session.adopt configuration.log.level configuration.log.format

def Tells (before after : Session) (events : List Log.Event) : Prop :=
  ∃ offers, after = before.offer offers ∧
    (offers.filter (·.origin = .command)).map (·.event) = events

theorem Tells.trans {first second third : Session} {events later : List Log.Event}
    (tells : first.Tells second events) (next : second.Tells third later) :
    first.Tells third (events ++ later) := by
  obtain ⟨offers, rfl, rfl⟩ := tells
  obtain ⟨more, rfl, rfl⟩ := next
  refine ⟨offers ++ more, (offer_append first offers more).symm, ?_⟩
  rw [List.filter_append, List.map_append]

theorem tells_nothing (session : Session) : session.Tells session [] :=
  ⟨[], rfl, rfl⟩

theorem tells_report (session : Session) (event : Log.Event) :
    session.Tells (session.report .command event) [event] :=
  ⟨[⟨.command, event⟩], rfl, rfl⟩

theorem tells_called {run after : Run World} {procedure : Procedure World α}
    {result : Except Fault α} (ended : run.called procedure = (result, after)) :
    run.session.Tells after.session [] := by
  obtain ⟨offers, own, same⟩ := perform_offers run.session (procedure run.world)
  have session : (run.called procedure).2.session = run.session.offer offers := same
  rw [ended] at session
  refine ⟨offers, session, ?_⟩
  have none : offers.filter (·.origin = .command) = [] := by
    rw [List.filter_eq_nil_iff]
    intro offer member
    simp [own offer member]
  rw [none, List.map_nil]

theorem Tells.commandEvents_eq {before after : Session} {events : List Log.Event}
    (tells : before.Tells after events) :
    ∃ log, after.entries = before.entries ++ log ∧ Log.commandEvents log = events ∧
      after.threshold = before.threshold ∧ after.format = before.format ∧
      ∀ entry ∈ log, entry.written =
        if entry.event.severity.reaches before.threshold then some before.format else none := by
  obtain ⟨offers, rfl, rfl⟩ := tells
  refine ⟨offers.map before.entryOf, offer_entries before offers, ?_, offer_threshold before offers,
    offer_format before offers, ?_⟩
  · rw [Log.commandEvents, List.filter_map, List.map_map]
    rfl
  · intro entry member
    obtain ⟨offer, _, rfl⟩ := List.mem_map.mp member
    rfl

end Session

namespace Pipeline

def shownBlock (blockText : String) : String :=
  match BlockRef.parse blockText with
  | .ok block => block.text
  | .error _ => ""

def setupTrail (pipeline : Pipeline World) (blockText : String) : List (Stage × Log.Event) :=
  [(.config, ⟨.debug, "command.setup",
      [("command", pipeline.command.name), ("block_argument", blockText)]⟩),
    (.serviceCreate, ⟨.debug, "service.created", [("command", pipeline.command.name)]⟩),
    (.serviceStart, ⟨.info, "service.started", [("command", pipeline.command.name)]⟩),
    (.blockNumber, ⟨.debug, "block_number.resolved", [("block", shownBlock blockText)]⟩)]

def runEvent (pipeline : Pipeline World) (blockText : String) : Log.Event :=
  ⟨.info, "command.run", [("command", pipeline.command.name),
    ("operation", pipeline.operation.name), ("block", shownBlock blockText)]⟩

/-- What is told of the stop: how loud a failure is depends on whether the run had failed. -/
def stopEvent (pipeline : Pipeline World) (ran stopped : Option ErrorReport) : Log.Event :=
  match stopped with
  | none => ⟨.info, "service.stopped", [("command", pipeline.command.name)]⟩
  | some report => ⟨if ran = none then .error else .warning, "service.stop_failed",
      [("command", pipeline.command.name), ("error", report.text)]⟩

def lastEvent (pipeline : Pipeline World) (blockText : String) (outcome : Except Failure Unit)
    (phase : Phase) : Log.Event :=
  match outcome with
  | .ok () => ⟨.info, "command.completed",
      [("command", pipeline.command.name), ("block", shownBlock blockText)]⟩
  | .error failure => ⟨.error, "command.failed", [("command", pipeline.command.name),
      ("stage", failure.stage.name), ("state", phase.name), ("code", failure.code),
      ("error", failure.text)]⟩

def setupEvents (pipeline : Pipeline World) (layer : Layer) (blockText : String)
    (calls : List CallRecord) : List Log.Event :=
  ((pipeline.setupTrail blockText).takeWhile fun (stage, _) =>
    pipeline.reportAt? layer blockText calls stage = none).map (·.2)

/-- All that a command tells of an invocation. -/
def trail (pipeline : Pipeline World) (layer : Layer) (blockText : String)
    (calls : List CallRecord) (outcome : Except Failure Unit) (phase : Phase) : List Log.Event :=
  let report? := pipeline.reportAt? layer blockText calls
  pipeline.setupEvents layer blockText calls ++
    (if ∀ stage ∈ Stage.setup, report? stage = none then
      [pipeline.runEvent blockText, pipeline.stopEvent (report? .run) (report? .teardown)]
    else []) ++
    [pipeline.lastEvent blockText outcome phase]

variable {pipeline : Pipeline World} {layer : Layer} {blockText : String}
  {invocation : Invocation} {start finish : Run World} {calls : List CallRecord}

theorem shownBlock_of_parse {block : BlockRef} (parsed : BlockRef.parse blockText = .ok block) :
    shownBlock blockText = block.text := by
  rw [shownBlock, parsed]

theorem tells_configured {configuration : Configuration}
    (loaded : Configuration.load layer = .ok configuration) :
    (start.session.governed layer).Tells
      (pipeline.configured configuration blockText start).session
      (((pipeline.setupTrail blockText).take 1).map (·.2)) := by
  rw [Session.governed, loaded]
  exact Session.tells_report _ _

theorem tells_serviceCreated {configuration : Configuration} {created : Run World}
    {present : Bool} (loaded : Configuration.load layer = .ok configuration)
    (creation : (pipeline.configured configuration blockText start).called
      (pipeline.backend.create configuration) = (.ok present, created)) :
    (start.session.governed layer).Tells (pipeline.serviceCreated created).session
      (((pipeline.setupTrail blockText).take 2).map (·.2)) :=
  ((tells_configured loaded).trans (Session.tells_called creation)).trans
    (Session.tells_report _ _)

theorem tells_serviceStarted {configuration : Configuration} {created started : Run World}
    {present : Bool} (loaded : Configuration.load layer = .ok configuration)
    (creation : (pipeline.configured configuration blockText start).called
      (pipeline.backend.create configuration) = (.ok present, created))
    (starting : (pipeline.serviceCreated created).called (pipeline.backend.start invocation) =
      (.ok (), started)) :
    (start.session.governed layer).Tells (pipeline.serviceStarted started).session
      (((pipeline.setupTrail blockText).take 3).map (·.2)) :=
  ((tells_serviceCreated loaded creation).trans (Session.tells_called starting)).trans
    (Session.tells_report _ _)

theorem tells_blockResolved {configuration : Configuration} {created started : Run World}
    {present : Bool} {block : BlockRef}
    (loaded : Configuration.load layer = .ok configuration)
    (creation : (pipeline.configured configuration blockText start).called
      (pipeline.backend.create configuration) = (.ok present, created))
    (starting : (pipeline.serviceCreated created).called (pipeline.backend.start invocation) =
      (.ok (), started))
    (parsed : BlockRef.parse blockText = .ok block) :
    (start.session.governed layer).Tells
      (blockResolved block (pipeline.serviceStarted started)).session
      ((pipeline.setupTrail blockText).map (·.2)) := by
  have resolved : (pipeline.serviceStarted started).session.Tells
      (blockResolved block (pipeline.serviceStarted started)).session
      [⟨.debug, "block_number.resolved", [("block", shownBlock blockText)]⟩] := by
    rw [shownBlock_of_parse parsed]
    exact Session.tells_report _ _
  exact (tells_serviceStarted loaded creation starting).trans resolved

theorem SetupCourse.tells_of_error {failure : Failure}
    (course : SetupCourse pipeline layer blockText invocation start (.error failure) finish calls) :
    (start.session.governed layer).Tells finish.session
      (pipeline.setupEvents layer blockText calls) := by
  cases course with
  | configRejected rejected =>
      have events : pipeline.setupEvents layer blockText [] = [] := by
        simp [setupEvents, setupTrail, reportAt?, rejected]
      rw [events, Session.governed, rejected]
      exact Session.tells_nothing _
  | @createFailed configuration fault _ loaded failed =>
      have events : pipeline.setupEvents layer blockText [⟨.create configuration, .gaveUp fault⟩] =
          ((pipeline.setupTrail blockText).take 1).map (·.2) := by
        simp [setupEvents, setupTrail, reportAt?, loaded, createReport?]
      rw [events]
      exact (tells_configured loaded).trans (Session.tells_called failed)
  | @serviceAbsent configuration _ loaded absent =>
      have events : pipeline.setupEvents layer blockText [⟨.create configuration, .absent⟩] =
          ((pipeline.setupTrail blockText).take 1).map (·.2) := by
        simp [setupEvents, setupTrail, reportAt?, loaded, createReport?]
      rw [events]
      exact (tells_configured loaded).trans (Session.tells_called absent)
  | @startFailed configuration created fault _ loaded creation failed =>
      have events : pipeline.setupEvents layer blockText
          [⟨.create configuration, .returned⟩, ⟨.start, .gaveUp fault⟩] =
            ((pipeline.setupTrail blockText).take 2).map (·.2) := by
        simp [setupEvents, setupTrail, reportAt?, loaded, createReport?, startReport?]
      rw [events]
      exact (tells_serviceCreated loaded creation).trans (Session.tells_called failed)
  | @blockRejected configuration created started cause loaded creation starting rejected =>
      have events : pipeline.setupEvents layer blockText (setupCalls configuration) =
          ((pipeline.setupTrail blockText).take 3).map (·.2) := by
        simp [setupEvents, setupTrail, reportAt?, loaded, setupCalls, createReport?, startReport?,
          rejected]
      rw [events]
      exact tells_serviceStarted loaded creation starting
  | @storageIncomplete configuration created started block missing loaded creation starting parsed
      incomplete =>
      have events : pipeline.setupEvents layer blockText (setupCalls configuration) =
          (pipeline.setupTrail blockText).map (·.2) := by
        simp [setupEvents, setupTrail, reportAt?, loaded, setupCalls, createReport?, startReport?,
          parsed]
      rw [events]
      exact tells_blockResolved loaded creation starting parsed

theorem SetupCourse.tells_of_ok
    (course : SetupCourse pipeline layer blockText invocation start (.ok ()) finish calls) :
    (start.session.governed layer).Tells finish.session
      ((pipeline.setupTrail blockText).map (·.2)) := by
  cases course with
  | ready loaded creation starting parsed complete =>
      exact tells_blockResolved loaded creation starting parsed

theorem trail_of_failed {stage : Stage} {report : ErrorReport} {failure : Failure}
    (member : stage ∈ Stage.setup)
    (failed : pipeline.reportAt? layer blockText calls stage = some report) (phase : Phase) :
    pipeline.trail layer blockText calls (.error failure) phase =
      pipeline.setupEvents layer blockText calls ++
        [pipeline.lastEvent blockText (.error failure) phase] := by
  have unpassed :
      ¬ ∀ stage ∈ Stage.setup, pipeline.reportAt? layer blockText calls stage = none := by
    intro passed
    rw [passed stage member] at failed
    contradiction
  rw [trail, if_neg unpassed, List.append_nil]

theorem trail_of_passed
    (passed : ∀ stage ∈ Stage.setup, pipeline.reportAt? layer blockText calls stage = none)
    (outcome : Except Failure Unit) (phase : Phase) :
    pipeline.trail layer blockText calls outcome phase =
      (pipeline.setupTrail blockText).map (·.2) ++
        [pipeline.runEvent blockText, pipeline.stopEvent
          (pipeline.reportAt? layer blockText calls .run)
          (pipeline.reportAt? layer blockText calls .teardown)] ++
        [pipeline.lastEvent blockText outcome phase] := by
  have all : pipeline.setupEvents layer blockText calls =
      (pipeline.setupTrail blockText).map (·.2) := by
    rw [setupEvents, List.takeWhile_eq_self_iff.mpr]
    intro step member
    have inSetup : ∀ step ∈ pipeline.setupTrail blockText, step.1 ∈ Stage.setup := by
      simp [setupTrail, Stage.setup]
    simpa using passed step.1 (inSetup step member)
  rw [trail, if_pos passed, all]

theorem SetupCourse.trail_eq {ready : Run World} {block : BlockRef}
    (course : SetupCourse pipeline layer blockText invocation start (.ok ()) ready calls)
    (performed stopped : CallEnd) (outcome : Except Failure Unit) (phase : Phase) :
    pipeline.trail layer blockText (calls ++
        [⟨.perform pipeline.operation block invocation.command, performed⟩, ⟨.stop, stopped⟩])
        outcome phase =
      (pipeline.setupTrail blockText).map (·.2) ++ [pipeline.runEvent blockText,
        pipeline.stopEvent
          (runReport? pipeline.command.name
            ⟨.perform pipeline.operation block invocation.command, performed⟩)
          (stopReport? ⟨.stop, stopped⟩)] ++
        [pipeline.lastEvent blockText outcome phase] := by
  rw [trail_of_passed (course.reportAt_setup performed stopped invocation.command block)]
  obtain ⟨configuration, _, _, _, _, _, _, rfl⟩ := course.ready_run
  obtain ⟨ran, stop⟩ := pipeline.reportAt_stopped layer blockText configuration block
    invocation.command performed stopped
  rw [ran, stop]

theorem SetupCourse.shownBlock_eq {ready : Run World} {block : BlockRef}
    (course : SetupCourse pipeline layer blockText invocation start (.ok ()) ready calls)
    (resolved : ready.context.block = some block) : shownBlock blockText = block.text := by
  obtain ⟨_, other, _, parsed, _, _, context, _⟩ := course.ready_run
  rw [context] at resolved
  obtain rfl : other = block := Option.some.inj resolved
  exact shownBlock_of_parse parsed

theorem SetupCourse.tells_stopped {ready ran stopped : Run World} {block : BlockRef}
    {performed stopResult : Except Fault Unit} {phase : Phase}
    (course : SetupCourse pipeline layer blockText invocation start (.ok ()) ready calls)
    (resolved : ready.context.block = some block)
    (performing : (pipeline.commandRun block ready).called
      (pipeline.backend.perform pipeline.operation invocation block) = (performed, ran))
    (stopping : (ran.enter phase).called (pipeline.backend.stop invocation) =
      (stopResult, stopped)) :
    (start.session.governed layer).Tells stopped.session
      ((pipeline.setupTrail blockText).map (·.2) ++ [pipeline.runEvent blockText]) := by
  have reported : ready.session.Tells (pipeline.commandRun block ready).session
      [pipeline.runEvent blockText] := by
    rw [runEvent, course.shownBlock_eq resolved]
    exact Session.tells_report _ _
  have performedQuietly : (pipeline.commandRun block ready).session.Tells ran.session [] :=
    Session.tells_called performing
  have stoppedQuietly : (ran.enter phase).session.Tells stopped.session [] :=
    Session.tells_called stopping
  exact (course.tells_of_ok.trans reported).trans (performedQuietly.trans stoppedQuietly)

theorem InvokeCourse.tells {outcome : Except Failure Unit}
    (course : InvokeCourse pipeline layer blockText invocation start outcome finish calls) :
    (start.session.governed layer).Tells finish.session
      (pipeline.trail layer blockText calls outcome finish.phase) := by
  cases course with
  | setupFailed setupCourse =>
      rw [trail_of_failed setupCourse.stage_mem setupCourse.reportAt_stage]
      exact setupCourse.tells_of_error.trans (Session.tells_report _ _)
  | completed setupCourse resolved performed stopping =>
      rw [setupCourse.trail_eq, lastEvent, setupCourse.shownBlock_eq resolved]
      exact ((setupCourse.tells_stopped resolved performed stopping).trans
        (Session.tells_report _ _)).trans (Session.tells_report _ _)
  | stopFailed setupCourse resolved performed failed =>
      rw [setupCourse.trail_eq]
      exact ((setupCourse.tells_stopped resolved performed failed).trans
        (Session.tells_report _ _)).trans (Session.tells_report _ _)
  | runFailed setupCourse resolved failed stopping =>
      rw [setupCourse.trail_eq]
      exact ((setupCourse.tells_stopped resolved failed stopping).trans
        (Session.tells_report _ _)).trans (Session.tells_report _ _)
  | bothFailed setupCourse resolved failed failedToo =>
      rw [setupCourse.trail_eq]
      exact ((setupCourse.tells_stopped resolved failed failedToo).trans
        (Session.tells_report _ _)).trans (Session.tells_report _ _)

/-- The threshold and the format in force once an invocation got as far as it did: those of the
configuration if it could be loaded, else those of before. -/
def InForce (layer : Layer) (session : Session) (threshold : Log.Severity) (format : Log.Format) :
    Prop :=
  match Configuration.load layer with
  | .error _ => threshold = session.threshold ∧ format = session.format
  | .ok configuration => Log.Severity.ofName? configuration.log.level = some threshold ∧
      Log.Format.ofName? configuration.log.format = some format

theorem inForce_governed (session : Session) (layer : Layer) :
    InForce layer session (session.governed layer).threshold (session.governed layer).format := by
  rw [InForce, Session.governed]
  cases loaded : Configuration.load layer with
  | error cause => exact ⟨rfl, rfl⟩
  | ok configuration =>
      obtain ⟨level, format⟩ := (Configuration.settled_of_load loaded).log_named
      obtain ⟨threshold, leveled⟩ := Option.isSome_iff_exists.mp level
      obtain ⟨style, formatted⟩ := Option.isSome_iff_exists.mp format
      simp only [Session.adopt, leveled, formatted, Option.getD_some, and_self]

theorem governed_entries (session : Session) (layer : Layer) :
    (session.governed layer).entries = session.entries := by
  rw [Session.governed]
  cases Configuration.load layer with
  | error cause => rfl
  | ok configuration => rfl

/-- What an invocation that started and finished like this has added to the log. -/
structure Audited (pipeline : Pipeline World) (layer : Layer) (blockText : String)
    (start finish : Run World) (calls : List CallRecord) (outcome : Except Failure Unit)
    (log : List Log.Entry) : Prop where
  extended : finish.session.entries = start.session.entries ++ log
  told : Log.commandEvents log = pipeline.trail layer blockText calls outcome finish.phase
  inForce : InForce layer start.session finish.session.threshold finish.session.format
  written : ∀ entry ∈ log, entry.written =
    if entry.event.severity.reaches finish.session.threshold then some finish.session.format
    else none

/-- An invocation tells exactly its trail, whatever its service does and reports, and each record is
written if it reaches the threshold in force. -/
theorem invoke_audited (pipeline : Pipeline World) (layer : Layer) (blockText : String)
    (invocation : Invocation) (start : Run World) (idle : start.phase = .idle) :
    ∃ outcome log, (pipeline.invoke layer blockText invocation start).1 = answer outcome ∧
      Audited pipeline layer blockText start (pipeline.invoke layer blockText invocation start).2
        (pipeline.recorded.invoke layer blockText invocation (start.withCalls [])).2.calls
        outcome log := by
  obtain ⟨outcome, finish, calls, course⟩ :=
    exists_invokeCourse pipeline layer blockText invocation start
  rw [course.invoke_eq idle, course.recorded_invoke_eq idle []]
  obtain ⟨log, extended, told, threshold, format, written⟩ := course.tells.commandEvents_eq
  refine ⟨outcome, log, rfl, ?_⟩
  constructor
  case extended => rw [extended, governed_entries]
  case told => exact told
  case inForce =>
    rw [threshold, format]
    exact inForce_governed start.session layer
  case written =>
    rw [threshold, format]
    exact written

theorem invoke_audited_both_failed :
    let pipeline : Pipeline Unit := ⟨.generate, .generate, rfl,
      Script.backend { performFault := some (.other "no data"), stopFault := some .notRunning }⟩
    let layer := Layer.ofList [(.logLevel, "warn"), (.logFormat, "json")]
    let start : Run Unit := { world := () }
    let finish := (pipeline.invoke layer "0x10" ⟨"generate", ⟨0⟩⟩ start).2
    start.phase = .idle ∧
      (∃ outcome log, Audited pipeline layer "0x10" start finish
        (pipeline.recorded.invoke layer "0x10" ⟨"generate", ⟨0⟩⟩ (start.withCalls [])).2.calls
        outcome log) ∧
      finish.session.entries.map (fun entry => (entry.event.name, entry.written)) =
        [("command.setup", none), ("service.created", none), ("service.started", none),
          ("block_number.resolved", none), ("command.run", none),
          ("service.stop_failed", some .json), ("command.failed", some .json)] := by
  intro pipeline layer start finish
  obtain ⟨outcome, log, _, audited⟩ :=
    invoke_audited pipeline layer "0x10" ⟨"generate", ⟨0⟩⟩ start rfl
  refine ⟨rfl, ⟨outcome, log, audited⟩, ?_⟩
  decide +kernel

end Pipeline

end ProverInput
