import ProverInput.Proofs.Command.Audit
import ProverInput.Proofs.Configuration.LogChoice
import ProverInput.Proofs.DryRun.Cancellation

/-!
The account of an invocation that runs dry while its token stays as it is: how it ends, in which
phase, and every event it offers to the log. The account can be written down before the invocation,
and the choice of the log does not enter into it.
-/

namespace ProverInput

namespace Pipeline

open DryRun

structure Account where
  result : Except Failure Unit
  phase : Phase
  offers : List Offer

def unready (pipeline : Pipeline DryRun) (failure : Failure) (offers : List Offer) : Account where
  result := .error failure
  phase := .setupFailed
  offers := offers ++ [pipeline.failedOffer failure .setupFailed]

def readyAccount (pipeline : Pipeline DryRun) (blockText : String) (invocation : Invocation)
    (service : DryRun) (block : BlockRef) : Account :=
  let upTo := pipeline.offersUpTo blockText invocation service block
  match service.started.obstacle? pipeline.operation with
  | some fault =>
    let failure := .run pipeline.command.name fault
    { result := .error failure
      phase := .failed
      offers := upTo 0 ++ [stoppedOffer invocation, pipeline.serviceStoppedOffer,
        pipeline.failedOffer failure .failed] }
  | none =>
    { result := .ok ()
      phase := .completed
      offers := upTo pipeline.operation.stages.length ++ [stoppedOffer invocation,
        pipeline.serviceStoppedOffer, pipeline.completedOffer block] }

/-- The account of an invocation whose token is cancelled from the start or not at all. -/
def account (urls : UrlLibrary) (pipeline : Pipeline DryRun)
    (loaded : Except ConfigError Configuration) (blockText : String) (invocation : Invocation)
    (cancelled : Bool) : Account :=
  let command := pipeline.command.name
  match loaded with
  | .error cause => pipeline.unready (.config cause) []
  | .ok configuration =>
    match ofConfiguration urls configuration with
    | .error fault => pipeline.unready (.create fault) ((createdOffers command blockText).take 1)
    | .ok service =>
      if cancelled then pipeline.unready (.start .cancelled) (createdOffers command blockText)
      else match BlockRef.parse blockText with
        | .error cause =>
          pipeline.unready (.block cause) (startedOffers command blockText service invocation)
        | .ok block =>
          match FieldGroup.s3.missing? configuration with
          | some missing => pipeline.unready (.storage missing)
              (resolvedOffers command blockText service invocation block)
          | none => pipeline.readyAccount blockText invocation service block

structure Account.Describes (account : Account) (layer : Layer) (start : Run DryRun)
    (result : Except Failure Unit) (finish : Run DryRun) : Prop where
  result : result = account.result
  phase : finish.phase = account.phase
  session : finish.session = (start.session.governed layer).offer account.offers

variable {urls : UrlLibrary} {pipeline : Pipeline DryRun} {layer : Layer} {blockText : String}
  {invocation : Invocation} {start finish : Run DryRun} {calls : List CallRecord}
  {configuration : Configuration}

theorem governed_of_load (loaded : Configuration.load layer = .ok configuration)
    (session : Session) : session.governed layer = session.following configuration := by
  rw [Session.governed, loaded]
  rfl

/-- If the token is the same at the end as at the start, it has been so at every checkpoint. -/
theorem heardAfter_of_steady {early offers : List Offer}
    (steady : finish.session.isCancelled invocation.token =
      start.session.isCancelled invocation.token)
    (reached : finish.session = (start.session.following configuration).offer offers)
    (cut : early <+: offers) :
    heardAfter start configuration invocation early =
      start.session.isCancelled invocation.token := by
  obtain ⟨later, rfl⟩ := cut
  rw [Bool.eq_iff_iff]
  constructor
  · intro heard
    rw [heardAfter, Session.isCancelled_iff, Session.mem_cancelled_offer_iff] at heard
    rw [← steady, reached, Session.isCancelled_iff, Session.mem_cancelled_offer_iff,
      List.map_append]
    exact heard.append _
  · intro cancelled
    rw [heardAfter, Session.isCancelled_iff, Session.mem_cancelled_offer_iff]
    exact Or.inl ((Session.isCancelled_iff _ _).mp cancelled)

theorem session_of_unready {failure : Failure} {after : Run DryRun} {offers : List Offer}
    (reached : after.session = (start.session.following configuration).offer offers) :
    (pipeline.commandFailed failure (after.enter .setupFailed)).session =
      (start.session.following configuration).offer (pipeline.unready failure offers).offers := by
  rw [unready, Session.offer_append, ← reached]
  rfl

theorem describes_unready {failure : Failure} {after : Run DryRun} {offers : List Offer}
    (loaded : Configuration.load layer = .ok configuration)
    (reached : after.session = (start.session.following configuration).offer offers) :
    (pipeline.unready failure offers).Describes layer start (.error failure)
      (pipeline.commandFailed failure (after.enter .setupFailed)) where
  result := rfl
  phase := rfl
  session := by rw [governed_of_load loaded, session_of_unready reached]

theorem of_started {created started : Run DryRun} (dry : pipeline.backend = DryRun.backend urls)
    (creation : (pipeline.configured configuration blockText start).called
      (pipeline.backend.create configuration) = (.ok true, created))
    (starting : (pipeline.serviceCreated created).called (pipeline.backend.start invocation) =
      (.ok (), started)) :
    ∃ service, ofConfiguration urls configuration = .ok service ∧
      heardAfter start configuration invocation
        (createdOffers pipeline.command.name blockText) = false ∧
      (pipeline.serviceStarted started).session = (start.session.following configuration).offer
        (startedOffers pipeline.command.name blockText service invocation) := by
  rw [dry] at creation starting
  obtain ⟨_, service, made, same⟩ := eq_of_creation creation
  rcases starting_cases made same starting with ⟨_, failed, _⟩ | ⟨unheard, _, rfl⟩
  · contradiction
  · subst same
    exact ⟨service, made, unheard, rfl⟩

theorem SetupCourse.describes {failure : Failure} {after : Run DryRun}
    (dry : pipeline.backend = DryRun.backend urls)
    (steady : (pipeline.commandFailed failure (after.enter .setupFailed)).session.isCancelled
      invocation.token = start.session.isCancelled invocation.token)
    (course : SetupCourse pipeline layer blockText invocation start (.error failure) after calls) :
    (pipeline.account urls (Configuration.load layer) blockText invocation
      (start.session.isCancelled invocation.token)).Describes layer start (.error failure)
        (pipeline.commandFailed failure (after.enter .setupFailed)) := by
  cases course with
  | configRejected rejected =>
      simp only [account, rejected]
      refine ⟨rfl, rfl, ?_⟩
      rw [Session.governed, rejected]
      rfl
  | @createFailed configuration fault _ loaded failed =>
      rw [dry] at failed
      change (pipeline.configured configuration blockText start).called
        (DryRun.create urls configuration) = _ at failed
      rw [called_create] at failed
      cases made : ofConfiguration urls configuration with
      | ok service => simp [made] at failed
      | error cause =>
          simp only [made, Prod.mk.injEq, Except.error.injEq] at failed
          obtain ⟨rfl, rfl⟩ := failed
          simp only [account, loaded, made]
          exact describes_unready loaded rfl
  | serviceAbsent loaded absent =>
      rw [dry] at absent
      obtain ⟨present, _⟩ := eq_of_creation absent
      contradiction
  | startFailed loaded created failed =>
      rw [dry] at created failed
      obtain ⟨_, service, made, same⟩ := eq_of_creation created
      rcases starting_cases made same failed with ⟨heard, rejected, rfl⟩ | ⟨_, passed, _⟩
      · obtain rfl := Except.error.inj rejected
        subst same
        have cancelled := heardAfter_of_steady steady (session_of_unready rfl)
          (List.prefix_append (createdOffers pipeline.command.name blockText) _)
        rw [heard] at cancelled
        simp only [account, loaded, made, ← cancelled, if_true]
        exact describes_unready loaded rfl
      · contradiction
  | blockRejected loaded created started rejected =>
      obtain ⟨service, made, unheard, reached⟩ := of_started dry created started
      have live := heardAfter_of_steady steady (session_of_unready reached)
        ((createdOffers_prefix_startedOffers pipeline.command.name).trans (List.prefix_append ..))
      rw [unheard] at live
      simp only [account, loaded, made, ← live, Bool.false_eq_true, if_false, rejected]
      exact describes_unready loaded reached
  | @storageIncomplete configuration _ startedRun block missing loaded created started parsed
      incomplete =>
      obtain ⟨service, made, unheard, startedSession⟩ := of_started dry created started
      have reached : (blockResolved block (pipeline.serviceStarted startedRun)).session =
          (start.session.following configuration).offer
            (resolvedOffers pipeline.command.name blockText service invocation block) := by
        rw [resolvedOffers, Session.offer_append, ← startedSession]
        rfl
      have live := heardAfter_of_steady steady (session_of_unready reached)
        ((createdOffers_prefix_resolvedOffers pipeline.command.name).trans (List.prefix_append ..))
      rw [unheard] at live
      simp only [account, loaded, made, ← live, Bool.false_eq_true, if_false, parsed, incomplete]
      exact describes_unready loaded reached

theorem Prepared.account_eq {service : DryRun} {block : BlockRef}
    (prepared : pipeline.Prepared urls layer blockText invocation start configuration service block)
    (live : start.session.isCancelled invocation.token = false) :
    pipeline.account urls (Configuration.load layer) blockText invocation
      (start.session.isCancelled invocation.token) =
        pipeline.readyAccount blockText invocation service block := by
  simp only [account, prepared.loaded, prepared.made, live, Bool.false_eq_true, if_false,
    prepared.parsed, prepared.complete]

section Performed

variable {ready ran stopped : Run DryRun} {block : BlockRef} {result ended : Except Fault Unit}
  {phase : Phase}

theorem SetupCourse.stop_passes (dry : pipeline.backend = DryRun.backend urls)
    (course : SetupCourse pipeline layer blockText invocation start (.ok ()) ready calls)
    (resolved : ready.context.block = some block)
    (performing : (pipeline.commandRun block ready).called
      (pipeline.backend.perform pipeline.operation invocation block) = (result, ran))
    (stopping : (ran.enter phase).called (pipeline.backend.stop invocation) = (ended, stopped)) :
    ended = .ok () := by
  obtain ⟨configuration, service, _, _, world, session⟩ := course.prepared dry resolved
  rw [dry] at performing stopping
  obtain ⟨_, running, _⟩ := performing_cases world session performing
  exact (of_stopping running stopping).1

theorem SetupCourse.performed_cases {tail : List Offer}
    (dry : pipeline.backend = DryRun.backend urls)
    (steady : finish.session.isCancelled invocation.token =
      start.session.isCancelled invocation.token)
    (course : SetupCourse pipeline layer blockText invocation start (.ok ()) ready calls)
    (resolved : ready.context.block = some block)
    (performing : (pipeline.commandRun block ready).called
      (pipeline.backend.perform pipeline.operation invocation block) = (result, ran))
    (stopping : (ran.enter phase).called (pipeline.backend.stop invocation) = (ended, stopped))
    (finished : finish.session = stopped.session.offer tail) :
    ∃ service count,
      pipeline.account urls (Configuration.load layer) blockText invocation
        (start.session.isCancelled invocation.token) =
          pipeline.readyAccount blockText invocation service block ∧
      finish.session = (start.session.governed layer).offer
        (pipeline.offersUpTo blockText invocation service block count ++
          stoppedOffer invocation :: tail) ∧
      ((∃ fault, service.started.obstacle? pipeline.operation = some fault ∧
          result = .error fault ∧ count = 0) ∨
        service.started.obstacle? pipeline.operation = none ∧ result = .ok () ∧
          count = pipeline.operation.stages.length) := by
  obtain ⟨configuration, service, prepared, _, world, session⟩ := course.prepared dry resolved
  rw [dry] at performing stopping
  obtain ⟨count, running, logged, outcome⟩ := performing_cases world session performing
  obtain ⟨_, _, stoppedSession⟩ := of_stopping running stopping
  have reached : finish.session = (start.session.following configuration).offer
      (pipeline.offersUpTo blockText invocation service block count ++
        stoppedOffer invocation :: tail) := by
    rw [finished, stoppedSession, logged, ← Session.offer_append, ← Session.offer_append]
    rfl
  have live := heardAfter_of_steady steady reached
    ((createdOffers_prefix_offersUpTo count).trans (List.prefix_append ..))
  rw [prepared.unheard] at live
  refine ⟨service, count, prepared.account_eq live.symm, ?_, ?_⟩
  · rw [governed_of_load prepared.loaded, reached]
  · rcases outcome with refused | ⟨clear, _, ⟨_, _, heard⟩ | ⟨all, passed⟩⟩
    · exact Or.inl refused
    · -- a stage that hears of a cancellation would contradict the start
      have late := heardAfter_of_steady steady reached (List.prefix_append ..)
      rw [heard, ← live] at late
      contradiction
    · exact Or.inr ⟨clear, passed, all⟩

end Performed

theorem InvokeCourse.describes {result : Except Failure Unit}
    (dry : pipeline.backend = DryRun.backend urls)
    (steady : finish.session.isCancelled invocation.token =
      start.session.isCancelled invocation.token)
    (course : InvokeCourse pipeline layer blockText invocation start result finish calls) :
    (pipeline.account urls (Configuration.load layer) blockText invocation
      (start.session.isCancelled invocation.token)).Describes layer start result finish := by
  cases course with
  | setupFailed setupCourse => exact setupCourse.describes dry steady
  | @completed ready block ran stopped _ setupCourse resolved performed stopping =>
      have finished : (pipeline.commandCompleted block
          (pipeline.serviceStopped .completed stopped)).session = stopped.session.offer
            [pipeline.serviceStoppedOffer, pipeline.completedOffer block] := rfl
      obtain ⟨service, count, same, reached, ⟨_, _, failed, _⟩ | ⟨clear, _, rfl⟩⟩ :=
        setupCourse.performed_cases dry steady resolved performed stopping finished
      · contradiction
      · rw [same, readyAccount, clear]
        exact ⟨rfl, rfl, reached⟩
  | stopFailed setupCourse resolved performed stopping =>
      have passes := setupCourse.stop_passes dry resolved performed stopping
      contradiction
  | @runFailed ready block fault ran stopped _ setupCourse resolved performed stopping =>
      have finished : (pipeline.commandFailed (.run pipeline.command.name fault)
          (pipeline.serviceStopped .failed stopped)).session = stopped.session.offer
            [pipeline.serviceStoppedOffer,
              pipeline.failedOffer (.run pipeline.command.name fault) .failed] := rfl
      obtain ⟨service, count, same, reached, ⟨cause, obstacle, failed, rfl⟩ | ⟨_, passed, _⟩⟩ :=
        setupCourse.performed_cases dry steady resolved performed stopping finished
      · obtain rfl := Except.error.inj failed
        rw [same, readyAccount, obstacle]
        exact ⟨rfl, rfl, reached⟩
      · contradiction
  | bothFailed setupCourse resolved performed stopping =>
      have passes := setupCourse.stop_passes dry resolved performed stopping
      contradiction

theorem ofConfiguration_withoutLog (urls : UrlLibrary) (configuration : Configuration) :
    ofConfiguration urls configuration.withoutLog =
      (ofConfiguration urls configuration).map fun service =>
        { service with configuration := configuration.withoutLog } := by
  have url : configuration.withoutLog.chain.rpcUrl = configuration.chain.rpcUrl := rfl
  rw [ofConfiguration, ofConfiguration, url]
  by_cases offline : configuration.chain.rpcUrl = ""
  · simp only [offline, if_true, Except.map]
  · simp only [offline, if_false]
    cases Endpoint.parse configuration.chain.rpcUrl urls with
    | error cause => rfl
    | ok endpoint => rfl

theorem account_withoutLog (urls : UrlLibrary) (pipeline : Pipeline DryRun)
    (loaded : Except ConfigError Configuration) (blockText : String) (invocation : Invocation)
    (cancelled : Bool) :
    pipeline.account urls (loaded.map Configuration.withoutLog) blockText invocation cancelled =
      pipeline.account urls loaded blockText invocation cancelled := by
  cases loaded with
  | error cause => rfl
  | ok configuration =>
      have complete : FieldGroup.s3.missing? configuration.withoutLog =
          FieldGroup.s3.missing? configuration := rfl
      simp only [account, Except.map, ofConfiguration_withoutLog, complete]
      cases made : ofConfiguration urls configuration with
      | error fault => rfl
      | ok service =>
          obtain ⟨same, _, _⟩ := of_ofConfiguration made
          subst same
          rfl

theorem account_eq_of_sameButLog {other : Layer} (alike : layer.SameButLog other)
    (urls : UrlLibrary) (pipeline : Pipeline DryRun) (blockText : String)
    (invocation : Invocation) (cancelled : Bool) :
    pipeline.account urls (Configuration.load layer) blockText invocation cancelled =
      pipeline.account urls (Configuration.load other) blockText invocation cancelled := by
  rw [← account_withoutLog, Configuration.load_withoutLog alike, account_withoutLog]

/-- From the start to the finish the events were offered to the log. Those that reach the threshold
in force were written, in the format in force. -/
structure Written (layer : Layer) (start finish : Session) (events : List Log.Event)
    (log : List Log.Entry) : Prop where
  extended : finish.entries = start.entries ++ log
  offered : log.map (·.event) = events
  inForce : InForce layer start finish.threshold finish.format
  records : ∀ stamp, Log.records stamp log =
    (events.filter (·.severity.reaches finish.threshold)).map (·.line finish.format stamp)

theorem Account.Describes.written {account : Account} {result : Except Failure Unit}
    (describes : account.Describes layer start result finish) :
    Written layer start.session finish.session (account.offers.map (·.event))
      (account.offers.map (start.session.governed layer).entryOf) := by
  constructor
  case extended => rw [describes.session, Session.offer_entries, governed_entries]
  case offered => rw [List.map_map]; rfl
  case inForce =>
    rw [describes.session, Session.offer_threshold, Session.offer_format]
    exact inForce_governed start.session layer
  case records =>
    rw [describes.session, Session.offer_threshold, Session.offer_format]
    exact Session.records_entryOf _ _

theorem Written.sublist {other : Layer} {before after otherBefore otherAfter : Session}
    {events : List Log.Event} {log otherLog : List Log.Entry}
    (written : Written layer before after events log)
    (otherWritten : Written other otherBefore otherAfter events otherLog)
    (format : after.format = otherAfter.format)
    (quieter : after.threshold.rank ≤ otherAfter.threshold.rank) (stamp : String) :
    (Log.records stamp otherLog).Sublist (Log.records stamp log) := by
  have reaches : ∀ event : Log.Event, event.severity.reaches otherAfter.threshold = true →
      event.severity.reaches after.threshold = true := by
    intro event reached
    simp only [Log.Severity.reaches, decide_eq_true_eq] at reached ⊢
    omega
  rw [written.records, otherWritten.records, format]
  exact (List.monotone_filter_right events reaches).map _

theorem steady_of_uninterrupted {World : Type} (pipeline : Pipeline World) (layer : Layer)
    (blockText : String) (invocation : Invocation) {start : Run World} (idle : start.phase = .idle)
    (uninterrupted : start.session.interruption = none) (token : Token) :
    (pipeline.invoke layer blockText invocation start).2.session.isCancelled token =
      start.session.isCancelled token := by
  obtain ⟨result, finish, calls, course⟩ :=
    exists_invokeCourse pipeline layer blockText invocation start
  obtain ⟨offers, reached, _⟩ := course.tells
  have kept : (start.session.governed layer).cancelled = start.session.cancelled ∧
      (start.session.governed layer).interruption = start.session.interruption := by
    rw [Session.governed]
    cases Configuration.load layer <;> exact ⟨rfl, rfl⟩
  rw [course.invoke_eq idle, Bool.eq_iff_iff, Session.isCancelled_iff, Session.isCancelled_iff,
    reached, Session.mem_cancelled_offer_iff, Session.CancelledAfter, kept.1, kept.2, uninterrupted]
  simp

/-- Two invocations have ended alike and offered the same events, and the log of each keeps what its
own threshold lets through. -/
structure Indifferent (layer other : Layer) (start otherStart : Session)
    (ended otherEnded : Except Problem Unit × Run DryRun) : Prop where
  result : ended.1 = otherEnded.1
  phase : ended.2.phase = otherEnded.2.phase
  logs : ∃ events log otherLog, Written layer start ended.2.session events log ∧
    Written other otherStart otherEnded.2.session events otherLog ∧
    (ended.2.session.format = otherEnded.2.session.format →
      ended.2.session.threshold.rank ≤ otherEnded.2.session.threshold.rank →
      ∀ stamp, (Log.records stamp otherLog).Sublist (Log.records stamp log))

/-- The choice of the log decides what is written and in which format, and nothing else. -/
theorem invoke_indifferent_to_log (urls : UrlLibrary) (pipeline : Pipeline DryRun)
    (dry : pipeline.backend = DryRun.backend urls) (layer other : Layer)
    (alike : layer.SameButLog other) (blockText : String) (invocation : Invocation)
    (start otherStart : Run DryRun) (idle : start.phase = .idle)
    (otherIdle : otherStart.phase = .idle)
    (agree : start.session.isCancelled invocation.token =
      otherStart.session.isCancelled invocation.token)
    (steady : (pipeline.invoke layer blockText invocation start).2.session.isCancelled
      invocation.token = start.session.isCancelled invocation.token)
    (otherSteady : (pipeline.invoke other blockText invocation otherStart).2.session.isCancelled
      invocation.token = otherStart.session.isCancelled invocation.token) :
    Indifferent layer other start.session otherStart.session
      (pipeline.invoke layer blockText invocation start)
      (pipeline.invoke other blockText invocation otherStart) := by
  obtain ⟨result, finish, calls, course⟩ :=
    exists_invokeCourse pipeline layer blockText invocation start
  obtain ⟨otherResult, otherFinish, otherCalls, otherCourse⟩ :=
    exists_invokeCourse pipeline other blockText invocation otherStart
  rw [course.invoke_eq idle] at steady ⊢
  rw [otherCourse.invoke_eq otherIdle] at otherSteady ⊢
  have describes := course.describes dry steady
  have otherDescribes := otherCourse.describes dry otherSteady
  rw [← agree, ← account_eq_of_sameButLog alike] at otherDescribes
  constructor
  case result => rw [describes.result, otherDescribes.result]
  case phase => rw [describes.phase, otherDescribes.phase]
  case logs =>
    have written := describes.written
    have otherWritten := otherDescribes.written
    exact ⟨_, _, _, written, otherWritten, written.sublist otherWritten⟩

theorem invoke_indifferent_to_log_offline :
    let pipeline : Pipeline DryRun := ⟨.prepare, .prepare, rfl, DryRun.backend .plain⟩
    let layer := Layer.ofList [(.chainId, "1"), (.logLevel, "debug")]
    let other := Layer.ofList [(.chainId, "1"), (.logLevel, "warn"), (.logFormat, "")]
    let invocation : Invocation := ⟨"prepare", ⟨0⟩⟩
    let start : Run DryRun := { world := {} }
    let ended := pipeline.invoke layer "latest" invocation start
    let otherEnded := pipeline.invoke other "latest" invocation start
    ended.2.session.recordCount = 10 ∧ otherEnded.2.session.recordCount = 0 ∧
      Indifferent layer other start.session start.session ended otherEnded := by
  intro pipeline layer other invocation start ended otherEnded
  have gives := Layer.gives_ofList [(.chainId, "1"), (.logLevel, "debug")]
  have otherGives := Layer.gives_ofList [(.chainId, "1"), (.logLevel, "warn"), (.logFormat, "")]
  have alike : layer.SameButLog other := by
    constructor
    case same =>
      intro setting notLog
      rw [gives.given?, otherGives.given?]
      cases setting <;> first
        | contradiction
        | rfl
    case chooses => exact ⟨Or.inr ⟨"debug", gives.given? _, Or.inr rfl⟩, Or.inl (gives.given? _)⟩
    case otherChooses =>
      exact ⟨Or.inr ⟨"warn", otherGives.given? _, Or.inr rfl⟩,
        Or.inr ⟨"", otherGives.given? _, Or.inl rfl⟩⟩
  have steady := steady_of_uninterrupted pipeline layer "latest" invocation rfl
    (rfl : start.session.interruption = none) ⟨0⟩
  have otherSteady := steady_of_uninterrupted pipeline other "latest" invocation rfl
    (rfl : start.session.interruption = none) ⟨0⟩
  refine ⟨by decide +kernel, by decide +kernel, ?_⟩
  exact invoke_indifferent_to_log .plain pipeline rfl layer other alike "latest" invocation start
    start rfl rfl rfl steady otherSteady

end Pipeline

end ProverInput
