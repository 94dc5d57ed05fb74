import ProverInput.Proofs.DryRun.Invocation

/-!
A dry run that is cancelled at any moment. Moments are positions in the log: a token that is or
becomes cancelled is found so at the first checkpoint that comes later, and nowhere else.
-/

namespace ProverInput

def Session.since (later earlier : Session) : List Log.Entry :=
  later.entries.drop earlier.entries.length

theorem Session.since_offer (session : Session) (offers : List Offer) :
    (session.offer offers).since session = offers.map session.entryOf := by
  rw [since, offer_entries, List.drop_left]

theorem Session.CancelledAfter.take_mono {session : Session} {token : Token}
    {log : List Log.Entry} {early late : Nat} (order : early ≤ late)
    (cancelled : session.CancelledAfter token (log.take early)) :
    session.CancelledAfter token (log.take late) := by
  obtain ⟨rest, split⟩ := List.take_prefix_take_left (l := log) order
  rw [← split]
  exact cancelled.append rest

namespace Log

def dispatchedStages (log : List Entry) : List (Option String) :=
  (dispatches log).map fun entry => entry.event.fields.lookup "stage"

end Log

namespace DryRun

variable {start finish : Run DryRun} {configuration : Configuration} {invocation : Invocation}
  {offers early : List Offer}

theorem Logged.since_eq (logged : Logged start finish configuration offers) :
    ∃ tail, Quiet tail ∧ finish.session.since start.session =
      (offers ++ tail).map (start.session.following configuration).entryOf := by
  obtain ⟨tail, quiet, entries⟩ := logged.exists_log
  refine ⟨tail, quiet, ?_⟩
  rw [Session.since, entries, List.drop_left]

theorem Logged.since_take (logged : Logged start finish configuration offers)
    (cut : early <+: offers) :
    (finish.session.since start.session).take early.length =
      early.map (start.session.following configuration).entryOf := by
  obtain ⟨tail, _, same⟩ := logged.since_eq
  obtain ⟨rest, rfl⟩ := cut
  rw [same, ← List.map_take, List.append_assoc, List.take_left]

theorem no_dispatch_of_quiet {session : Session} {entry : Log.Entry} (quiet : Quiet offers)
    (member : entry ∈ offers.map session.entryOf) : entry.event.name ≠ "stage.dispatched" := by
  obtain ⟨offer, offered, rfl⟩ := List.mem_map.mp member
  exact quiet offer offered

theorem Logged.no_dispatch (logged : Logged start finish configuration offers)
    (quiet : Quiet offers) {entry : Log.Entry}
    (member : entry ∈ finish.session.since start.session) :
    entry.event.name ≠ "stage.dispatched" := by
  obtain ⟨tail, quietLater, same⟩ := logged.since_eq
  rw [same, List.map_append, List.mem_append] at member
  rcases member with early | late
  · exact no_dispatch_of_quiet quiet early
  · exact no_dispatch_of_quiet quietLater late

theorem Logged.heardAfter_iff (logged : Logged start finish configuration offers)
    (cut : early <+: offers) :
    heardAfter start configuration invocation early = true ↔
      start.session.CancelledAfter invocation.token
        ((finish.session.since start.session).take early.length) := by
  rw [heardAfter, Session.isCancelled_iff, Session.mem_cancelled_offer_iff, logged.since_take cut]
  rfl

end DryRun

namespace Pipeline

open DryRun Log

section Moments

variable {pipeline : Pipeline DryRun} {blockText : String} {invocation : Invocation}
  {service : DryRun} {block : BlockRef}

theorem createdOffers_prefix_startedOffers (command : String) :
    createdOffers command blockText <+: startedOffers command blockText service invocation :=
  List.prefix_append ..

theorem createdOffers_prefix_resolvedOffers (command : String) :
    createdOffers command blockText <+:
      resolvedOffers command blockText service invocation block :=
  (createdOffers_prefix_startedOffers command).trans (List.prefix_append ..)

theorem createdOffers_prefix_offersUpTo (count : Nat) :
    createdOffers pipeline.command.name blockText <+:
      pipeline.offersUpTo blockText invocation service block count :=
  ((createdOffers_prefix_resolvedOffers _).trans (List.prefix_append ..)).trans
    (List.prefix_append ..)

theorem offersUpTo_mono {early late : Nat} (order : early ≤ late) :
    pipeline.offersUpTo blockText invocation service block early <+:
      pipeline.offersUpTo blockText invocation service block late :=
  (List.prefix_append_right_inj _).mpr ((List.take_prefix_take_left order).map _)

theorem dispatchedStages_upTo {tail : List Offer} (quiet : Quiet tail) (count : Nat)
    (session : Session) :
    dispatchedStages ((pipeline.offersUpTo blockText invocation service block count ++ tail).map
      session.entryOf) =
        ((dueStages pipeline.operation).take count).map fun stage => some stage.name := by
  rw [dispatchedStages, dispatches_upTo quiet, List.map_map, List.map_map, stages_eq_dueStages]
  apply List.map_congr_left
  intro stage _
  cases stage with
  | preflight => rfl
  | generate => rfl
  | prepare => rfl
  | execute => rfl

end Moments

variable {urls : UrlLibrary} {pipeline : Pipeline DryRun} {layer : Layer} {blockText : String}
  {invocation : Invocation} {start finish : Run DryRun} {calls : List CallRecord}
  {result : Except Failure Unit}

theorem Serving.not_cancelled {configuration : Configuration} {service : DryRun}
    {offers : List Offer}
    (serving : Serving urls pipeline layer blockText invocation start configuration service)
    (logged : Logged start finish configuration offers)
    (cut : createdOffers pipeline.command.name blockText <+: offers) :
    ¬ start.session.CancelledAfter invocation.token
      ((finish.session.since start.session).take startMoment) := by
  intro cancelled
  have heard := (logged.heardAfter_iff cut).mpr cancelled
  rw [serving.unheard] at heard
  contradiction

theorem DryCourse.of_cancelled_at_start
    (course : DryCourse urls pipeline layer blockText invocation start result finish calls)
    (config : Meets urls pipeline.operation layer blockText .config)
    (create : Meets urls pipeline.operation layer blockText .serviceCreate)
    (cancelled : start.session.CancelledAfter invocation.token
      ((finish.session.since start.session).take startMoment)) :
    result = .error (.start .cancelled) ∧ ∃ configuration,
      Configuration.load layer = .ok configuration ∧
      calls.map CallRecord.call = [.create configuration, .start] := by
  cases course with
  | configRejected rejected _ =>
      obtain ⟨configuration, loaded⟩ := config
      rw [rejected] at loaded
      contradiction
  | createFailed loaded failed _ =>
      obtain ⟨service, made⟩ := (meets_serviceCreate_iff loaded).mp create
      rw [failed] at made
      contradiction
  | startCancelled loaded _ _ _ => exact ⟨rfl, _, loaded, rfl⟩
  | blockRejected serving _ logged =>
      exact absurd cancelled (serving.not_cancelled logged (createdOffers_prefix_startedOffers _))
  | storageIncomplete serving _ _ logged =>
      exact absurd cancelled (serving.not_cancelled logged (createdOffers_prefix_resolvedOffers _))
  | refused prepared _ logged _ =>
      exact absurd cancelled (prepared.not_cancelled logged (createdOffers_prefix_offersUpTo _))
  | cutShort prepared _ _ _ _ logged _ =>
      exact absurd cancelled (prepared.not_cancelled logged (createdOffers_prefix_offersUpTo _))
  | completed prepared _ _ logged _ _ =>
      exact absurd cancelled (prepared.not_cancelled logged (createdOffers_prefix_offersUpTo _))

theorem InvokeCourse.stop_called (idle : start.phase = .idle)
    (course : InvokeCourse pipeline layer blockText invocation start result finish calls)
    (passed : (pipeline.setup layer blockText invocation start).1 = .ok ()) :
    Call.stop ∈ calls.map CallRecord.call := by
  cases course with
  | setupFailed setupCourse =>
      rw [setupCourse.setup_eq_of_error idle] at passed
      contradiction
  | completed setupCourse resolved performed stopped => simp
  | stopFailed setupCourse resolved performed failed => simp
  | runFailed setupCourse resolved failed stopped => simp
  | bothFailed setupCourse resolved failed failedToo => simp

theorem DryCourse.of_stop_called
    (course : DryCourse urls pipeline layer blockText invocation start result finish calls)
    (called : Call.stop ∈ calls.map CallRecord.call) :
    (∃ configuration service block count,
      Prepared urls pipeline layer blockText invocation start configuration service block ∧
        Logged start finish configuration
          (pipeline.offersUpTo blockText invocation service block count)) ∧
      calls.filter (·.call = .stop) = [⟨.stop, .returned⟩] ∧ finish.world.running = false := by
  cases course with
  | configRejected _ _ => simp at called
  | createFailed _ _ _ => simp at called
  | startCancelled _ _ _ _ => simp at called
  | blockRejected _ _ _ => simp [setupCalls] at called
  | storageIncomplete _ _ _ _ => simp [setupCalls] at called
  | refused prepared _ logged idle =>
      exact ⟨⟨_, _, _, _, prepared, logged⟩, by simp [setupCalls], idle⟩
  | cutShort prepared _ _ _ _ logged idle =>
      exact ⟨⟨_, _, _, _, prepared, logged⟩, by simp [setupCalls], idle⟩
  | completed prepared _ _ logged idle _ =>
      exact ⟨⟨_, _, _, _, prepared, logged⟩, by simp [setupCalls], idle⟩

theorem stage_heard_iff {configuration : Configuration} {service : DryRun} {block : BlockRef}
    {stage count : Nat}
    (logged : Logged start finish configuration
      (pipeline.offersUpTo blockText invocation service block count))
    (reached : stage ≤ count) (bounded : stage ≤ pipeline.operation.stages.length) :
    heardAfter start configuration invocation
        (pipeline.offersUpTo blockText invocation service block stage) = true ↔
      start.session.CancelledAfter invocation.token
        ((finish.session.since start.session).take (stageMoment stage)) := by
  rw [← offersUpTo_length bounded]
  exact logged.heardAfter_iff (offersUpTo_mono reached)

theorem DryCourse.of_cancelled_at_stage
    (course : DryCourse urls pipeline layer blockText invocation start result finish calls)
    (called : Call.stop ∈ calls.map CallRecord.call)
    (met : Meets urls pipeline.operation layer blockText .run) {count : Nat}
    (bounded : count < (dueStages pipeline.operation).length)
    (earlier : ∀ stage < count, ¬ start.session.CancelledAfter invocation.token
      ((finish.session.since start.session).take (stageMoment stage)))
    (cancelled : start.session.CancelledAfter invocation.token
      ((finish.session.since start.session).take (stageMoment count))) :
    result = .error (.run pipeline.command.name .cancelled) ∧
      dispatchedStages (finish.session.since start.session) =
        ((dueStages pipeline.operation).take count).map fun stage => some stage.name := by
  rw [← stages_eq_dueStages] at bounded
  cases course with
  | configRejected _ _ => simp at called
  | createFailed _ _ _ => simp at called
  | startCancelled _ _ _ _ => simp at called
  | blockRejected _ _ _ => simp [setupCalls] at called
  | storageIncomplete _ _ _ _ => simp [setupCalls] at called
  | refused prepared obstacle _ _ =>
      rw [(meets_run_iff prepared.loaded prepared.made).mp met] at obstacle
      contradiction
  | @cutShort _ service block reached _ prepared clear short unheard heard logged idle =>
      obtain ⟨tail, quiet, same⟩ := logged.since_eq
      -- The stage that was cut short is the first whose checkpoint hears of the cancellation.
      have notLater : ¬ count < reached := by
        intro passed
        have silent := unheard count passed
        rw [(stage_heard_iff logged (Nat.le_of_lt passed) (Nat.le_of_lt bounded)).mpr
          cancelled] at silent
        contradiction
      have notEarlier : ¬ reached < count := by
        intro before
        exact earlier reached before
          ((stage_heard_iff logged (Nat.le_refl _) (Nat.le_of_lt short)).mp heard)
      obtain rfl : count = reached := by omega
      rw [same]
      exact ⟨rfl, dispatchedStages_upTo quiet count _⟩
  | completed prepared clear unheard logged idle ended =>
      have silent := unheard count bounded
      rw [(stage_heard_iff logged (Nat.le_of_lt bounded) (Nat.le_of_lt bounded)).mpr
        cancelled] at silent
      contradiction

theorem DryCourse.of_cancelled_late
    (course : DryCourse urls pipeline layer blockText invocation start result finish calls)
    (met : ∀ stage ∈ Stage.lifecycle, Meets urls pipeline.operation layer blockText stage)
    (unheard : ¬ start.session.CancelledAfter invocation.token
      ((finish.session.since start.session).take
        (stageMoment ((dueStages pipeline.operation).length - 1)))) :
    result = .ok () ∧ finish.phase = .completed ∧
      dispatchedStages (finish.session.since start.session) =
        (dueStages pipeline.operation).map fun stage => some stage.name := by
  rw [← stages_eq_dueStages] at unheard
  cases result with
  | error failure =>
      rcases course.unmet_or_heard with ⟨passed, later, split, _, unmet⟩ |
        ⟨configuration, early, heard, logged, before⟩
      · have reached : failure.stage ∈ Stage.lifecycle := by
          rw [split]
          exact List.mem_append_right passed List.mem_cons_self
        exact absurd (met failure.stage reached) unmet
      · have cancelled := (logged.heardAfter_iff List.prefix_rfl).mp heard
        have order : early.length ≤ stageMoment (pipeline.operation.stages.length - 1) := by
          unfold stageMoment at before ⊢
          omega
        exact absurd (cancelled.take_mono order) unheard
  | ok done =>
      cases course with
      | completed prepared clear _ logged _ ended =>
          obtain ⟨tail, quiet, same⟩ := logged.since_eq
          refine ⟨rfl, ended, ?_⟩
          rw [same, dispatchedStages_upTo quiet, stages_eq_dueStages, List.take_length]

theorem dispatch_position {service : DryRun} {block : BlockRef} {count : Nat} {tail : List Offer}
    {session : Session} {before after : List Log.Entry} {entry : Log.Entry}
    (bounded : count ≤ pipeline.operation.stages.length) (quiet : Quiet tail)
    (split : (pipeline.offersUpTo blockText invocation service block count ++ tail).map
      session.entryOf = before ++ entry :: after)
    (dispatch : entry.event.name = "stage.dispatched") :
    ∃ stage < count, before.length = stageMoment stage := by
  have found : ((pipeline.offersUpTo blockText invocation service block count ++ tail).map
      session.entryOf)[before.length]? = some entry := by
    rw [split]
    simp
  rw [List.getElem?_map] at found
  obtain ⟨offer, offered, rfl⟩ := Option.map_eq_some_iff.mp found
  have notLate : ¬ stageMoment count ≤ before.length := by
    intro late
    rw [List.getElem?_append_right (by rw [offersUpTo_length bounded]; exact late)] at offered
    exact quiet offer (List.mem_of_getElem? offered) dispatch
  have notEarly : ¬ before.length < stageMoment 0 := by
    intro early
    rw [offersUpTo, List.append_assoc, List.getElem?_append_left early] at offered
    exact quiet_readyOffers _ _ _ _ _ _ offer (List.mem_of_getElem? offered) dispatch
  unfold stageMoment at notLate notEarly ⊢
  exact ⟨before.length - 6, by omega, by omega⟩

theorem DryCourse.not_cancelled_at_dispatch
    (course : DryCourse urls pipeline layer blockText invocation start result finish calls)
    {before after : List Log.Entry} {entry : Log.Entry}
    (split : finish.session.since start.session = before ++ entry :: after)
    (dispatch : entry.event.name = "stage.dispatched") :
    ¬ start.session.CancelledAfter invocation.token before := by
  have reached {configuration : Configuration} {service : DryRun} {block : BlockRef} {count : Nat}
      (logged : Logged start finish configuration
        (pipeline.offersUpTo blockText invocation service block count))
      (bounded : count ≤ pipeline.operation.stages.length)
      (unheard : ∀ stage < count, heardAfter start configuration invocation
        (pipeline.offersUpTo blockText invocation service block stage) = false) :
      ¬ start.session.CancelledAfter invocation.token before := by
    obtain ⟨tail, quiet, same⟩ := logged.since_eq
    obtain ⟨stage, passed, position⟩ :=
      dispatch_position bounded quiet (same.symm.trans split) dispatch
    intro cancelled
    have silent := unheard stage passed
    have moment : before = (finish.session.since start.session).take (stageMoment stage) := by
      rw [split, ← position, List.take_left]
    rw [moment] at cancelled
    rw [(stage_heard_iff logged (Nat.le_of_lt passed)
      (Nat.le_of_lt (Nat.lt_of_lt_of_le passed bounded))).mpr cancelled] at silent
    contradiction
  have member : entry ∈ finish.session.since start.session := by
    rw [split]
    exact List.mem_append_right before List.mem_cons_self
  cases course with
  | configRejected _ ended =>
      obtain ⟨tail, quiet, same⟩ := ended
      rw [same, Session.since_offer] at member
      exact absurd dispatch (no_dispatch_of_quiet quiet member)
  | createFailed _ _ logged =>
      have quiet := (quiet_createdOffers pipeline.command.name blockText).mono
        (List.take_prefix 1 _)
      exact absurd dispatch (logged.no_dispatch quiet member)
  | startCancelled _ _ _ logged =>
      exact absurd dispatch (logged.no_dispatch (quiet_createdOffers _ _) member)
  | blockRejected _ _ logged =>
      exact absurd dispatch (logged.no_dispatch (quiet_startedOffers _ _ _ _) member)
  | storageIncomplete _ _ _ logged =>
      exact absurd dispatch (logged.no_dispatch (quiet_resolvedOffers _ _ _ _ _) member)
  | refused _ _ logged _ => exact reached logged (Nat.zero_le _) (by simp)
  | cutShort _ _ short unheard _ logged _ => exact reached logged (Nat.le_of_lt short) unheard
  | completed _ _ unheard logged _ _ => exact reached logged (Nat.le_refl _) unheard

theorem DryCourse.logged
    (course : DryCourse urls pipeline layer blockText invocation start result finish calls) :
    (calls = [] ∧ ∃ tail, finish.session = start.session.offer tail) ∨
      ∃ configuration offers, Logged start finish configuration offers ∧
        (Call.start ∈ calls.map CallRecord.call →
          createdOffers pipeline.command.name blockText <+: offers) := by
  cases course with
  | configRejected _ ended =>
      obtain ⟨tail, _, same⟩ := ended
      exact Or.inl ⟨rfl, tail, same⟩
  | createFailed _ _ logged => exact Or.inr ⟨_, _, logged, by simp⟩
  | startCancelled _ _ _ logged => exact Or.inr ⟨_, _, logged, fun _ => List.prefix_rfl⟩
  | blockRejected _ _ logged =>
      exact Or.inr ⟨_, _, logged, fun _ => createdOffers_prefix_startedOffers _⟩
  | storageIncomplete _ _ _ logged =>
      exact Or.inr ⟨_, _, logged, fun _ => createdOffers_prefix_resolvedOffers _⟩
  | refused _ _ logged _ =>
      exact Or.inr ⟨_, _, logged, fun _ => createdOffers_prefix_offersUpTo _⟩
  | cutShort _ _ _ _ _ logged _ =>
      exact Or.inr ⟨_, _, logged, fun _ => createdOffers_prefix_offersUpTo _⟩
  | completed _ _ _ logged _ _ =>
      exact Or.inr ⟨_, _, logged, fun _ => createdOffers_prefix_offersUpTo _⟩

theorem DryCourse.entries_eq
    (course : DryCourse urls pipeline layer blockText invocation start result finish calls) :
    finish.session.entries =
      start.session.entries ++ finish.session.since start.session := by
  rcases course.logged with ⟨_, tail, same⟩ | ⟨configuration, offers, logged, _⟩
  · rw [same, Session.since_offer, Session.offer_entries]
  · obtain ⟨tail, _, entries⟩ := logged.exists_log
    rw [Session.since, entries, List.drop_left]

theorem DryCourse.names_before_start
    (course : DryCourse urls pipeline layer blockText invocation start result finish calls)
    (called : Call.start ∈ calls.map CallRecord.call) :
    ((finish.session.since start.session).take startMoment).map (·.event.name) =
      ["command.setup", "service.created"] := by
  rcases course.logged with ⟨uncalled, _⟩ | ⟨configuration, offers, logged, cut⟩
  · simp [uncalled] at called
  · have early := logged.since_take (cut called)
    have moment : (createdOffers pipeline.command.name blockText).length = startMoment := rfl
    rw [moment] at early
    rw [early]
    rfl

theorem DryCourse.names_before_stages
    (course : DryCourse urls pipeline layer blockText invocation start result finish calls)
    (called : Call.stop ∈ calls.map CallRecord.call) :
    ((finish.session.since start.session).take (stageMoment 0)).map (·.event.name) =
        ["command.setup", "service.created", "dry_run.started", "service.started",
          "block_number.resolved", "command.run"] ∧
      dispatches (finish.session.since start.session) <+:
        (finish.session.since start.session).drop (stageMoment 0) := by
  obtain ⟨⟨configuration, service, block, count, prepared, logged⟩, _⟩ :=
    course.of_stop_called called
  obtain ⟨tail, quiet, same⟩ := logged.since_eq
  have moment : (readyOffers pipeline.command.name blockText service invocation
      pipeline.operation block).length = stageMoment 0 := rfl
  constructor
  · have early := logged.since_take (List.prefix_append (readyOffers pipeline.command.name
      blockText service invocation pipeline.operation block) _)
    rw [moment] at early
    rw [early]
    rfl
  · rw [same, dispatches_upTo quiet, offersUpTo, ← moment, ← List.map_drop, List.append_assoc,
      List.drop_left, List.map_append]
    exact List.prefix_append _ _

/-- What a command and its service do about a token, whenever it is cancelled. The log tells the
moments: what a checkpoint hears depends on the entries before it. -/
structure Obedient (urls : UrlLibrary) (pipeline : Pipeline DryRun) (layer : Layer)
    (blockText : String) (invocation : Invocation) (start finish : Run DryRun)
    (result : Except Problem Unit) (calls : List CallRecord) (log : List Log.Entry) : Prop where
  extended : finish.session.entries = start.session.entries ++ log
  startChecked : Call.start ∈ calls.map CallRecord.call →
    (log.take startMoment).map (·.event.name) = ["command.setup", "service.created"]
  stagesChecked : Call.stop ∈ calls.map CallRecord.call →
    (log.take (stageMoment 0)).map (·.event.name) = ["command.setup", "service.created",
      "dry_run.started", "service.started", "block_number.resolved", "command.run"] ∧
    dispatches log <+: log.drop (stageMoment 0)
  cancelledAtStart : Meets urls pipeline.operation layer blockText .config →
    Meets urls pipeline.operation layer blockText .serviceCreate →
    start.session.CancelledAfter invocation.token (log.take startMoment) →
    thrown? result = some ⟨.serviceStart, "E_SERVICE_START",
      "failed to start prover inputs service: operation cancelled",
      "Verify the chain RPC endpoint is reachable", []⟩ ∧
    ∃ configuration, Configuration.load layer = .ok configuration ∧
      calls.map CallRecord.call = [.create configuration, .start]
  stopped : (pipeline.setup layer blockText invocation start).1 = .ok () →
    calls.filter (·.call = .stop) = [⟨.stop, .returned⟩] ∧ finish.world.running = false
  cancelledAtStage : (pipeline.setup layer blockText invocation start).1 = .ok () →
    Meets urls pipeline.operation layer blockText .run →
    ∀ count < (dueStages pipeline.operation).length,
      (∀ stage < count,
        ¬ start.session.CancelledAfter invocation.token (log.take (stageMoment stage))) →
      start.session.CancelledAfter invocation.token (log.take (stageMoment count)) →
      thrown? result = some ⟨.run, "E_RUN_FAILED",
        pipeline.command.name ++ " failed: operation cancelled", "", []⟩ ∧
      dispatchedStages log =
        ((dueStages pipeline.operation).take count).map fun stage => some stage.name
  silent : ∀ before entry after, log = before ++ entry :: after →
    entry.event.name = "stage.dispatched" →
    ¬ start.session.CancelledAfter invocation.token before
  cancelledLate : (∀ stage ∈ Stage.lifecycle, Meets urls pipeline.operation layer blockText stage) →
    ¬ start.session.CancelledAfter invocation.token
      (log.take (stageMoment ((dueStages pipeline.operation).length - 1))) →
    result = .ok () ∧ finish.phase = .completed ∧
      dispatchedStages log = (dueStages pipeline.operation).map fun stage => some stage.name

theorem report_of_cancelled_run (command : String) :
    (Failure.run command .cancelled).report = ⟨.run, "E_RUN_FAILED",
      command ++ " failed: operation cancelled", "", []⟩ := by
  have message : " failed: " ++ Fault.message .cancelled = " failed: operation cancelled" := by
    decide
  have text : (Failure.run command .cancelled).text = command ++ " failed: operation cancelled" :=
    calc (Failure.run command .cancelled).text
        _ = command ++ (" failed: " ++ Fault.message .cancelled) := String.append_assoc ..
        _ = command ++ " failed: operation cancelled" := congrArg (command ++ ·) message
  exact congrArg (ErrorReport.mk .run "E_RUN_FAILED" · "" []) text

theorem InvokeCourse.obedient (idle : start.phase = .idle)
    (dry : pipeline.backend = DryRun.backend urls)
    (course : InvokeCourse pipeline layer blockText invocation start result finish calls) :
    Obedient urls pipeline layer blockText invocation start finish (answer result) calls
      (finish.session.since start.session) := by
  have dryCourse := course.dryCourse dry
  constructor
  case extended => exact dryCourse.entries_eq
  case startChecked => exact dryCourse.names_before_start
  case stagesChecked => exact dryCourse.names_before_stages
  case cancelledAtStart =>
    intro config create cancelled
    obtain ⟨rfl, called⟩ := dryCourse.of_cancelled_at_start config create cancelled
    exact ⟨rfl, called⟩
  case stopped =>
    intro passed
    exact (dryCourse.of_stop_called (course.stop_called idle passed)).2
  case cancelledAtStage =>
    intro passed met count bounded earlier cancelled
    obtain ⟨rfl, dispatched⟩ := dryCourse.of_cancelled_at_stage (course.stop_called idle passed)
      met bounded earlier cancelled
    exact ⟨congrArg some (report_of_cancelled_run _), dispatched⟩
  case silent =>
    intro before entry after split dispatch
    exact dryCourse.not_cancelled_at_dispatch split dispatch
  case cancelledLate =>
    intro met unheard
    obtain ⟨rfl, ended⟩ := dryCourse.of_cancelled_late met unheard
    exact ⟨rfl, ended⟩

/-- An invocation that runs dry obeys its token, whenever that is cancelled. -/
theorem invoke_obeys_cancellation (urls : UrlLibrary) (pipeline : Pipeline DryRun)
    (dry : pipeline.backend = DryRun.backend urls) (layer : Layer) (blockText : String)
    (invocation : Invocation) (start : Run DryRun) (idle : start.phase = .idle) :
    Obedient urls pipeline layer blockText invocation start
      (pipeline.invoke layer blockText invocation start).2
      (pipeline.invoke layer blockText invocation start).1
      (pipeline.recorded.invoke layer blockText invocation (start.withCalls [])).2.calls
      ((pipeline.invoke layer blockText invocation start).2.session.since start.session) := by
  obtain ⟨result, finish, calls, course⟩ :=
    exists_invokeCourse pipeline layer blockText invocation start
  rw [course.invoke_eq idle, course.recorded_invoke_eq idle []]
  exact course.obedient idle dry

theorem invoke_cancelled_after_preflight :
    let pipeline : Pipeline DryRun := ⟨.generate, .generate, rfl, DryRun.backend .plain⟩
    let layer := Layer.ofList [(.chainRpcUrl, "http://localhost:8545"), (.logLevel, "debug")]
    let start : Run DryRun := { world := {}, session := { interruption := some ⟨7, ⟨0⟩⟩ } }
    let finish := (pipeline.invoke layer "0x10" ⟨"generate", ⟨0⟩⟩ start).2
    start.phase = .idle ∧
      dispatchedStages (finish.session.since start.session) = [some "preflight"] ∧
      Obedient .plain pipeline layer "0x10" ⟨"generate", ⟨0⟩⟩ start finish
        (pipeline.invoke layer "0x10" ⟨"generate", ⟨0⟩⟩ start).1
        (pipeline.recorded.invoke layer "0x10" ⟨"generate", ⟨0⟩⟩ (start.withCalls [])).2.calls
        (finish.session.since start.session) := by
  refine ⟨rfl, ?_, invoke_obeys_cancellation _ _ rfl _ _ _ _ rfl⟩
  decide +kernel

end Pipeline

end ProverInput
