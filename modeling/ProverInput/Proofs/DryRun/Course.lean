import ProverInput.Proofs.Command.Invoke
import ProverInput.Proofs.DryRun.Procedures

/-!
The courses of an invocation that runs dry. Up to the end of the last stage every event of such a
course is known, and with it the moments at which the service asks whether it was cancelled.
-/

namespace ProverInput

def Session.following (session : Session) (configuration : Configuration) : Session :=
  session.adopt configuration.log.level configuration.log.format

namespace DryRun

def Quiet (offers : List Offer) : Prop :=
  ∀ offer ∈ offers, offer.event.name ≠ "stage.dispatched"

/-! The events of a command and its service, up to the moments at which the service asks. -/

def createdOffers (command blockText : String) : List Offer :=
  [⟨.command, .debug, "command.setup", [("command", command), ("block_argument", blockText)]⟩,
    ⟨.command, .debug, "service.created", [("command", command)]⟩]

def startedOffers (command blockText : String) (service : DryRun) (invocation : Invocation) :
    List Offer :=
  createdOffers command blockText ++ [startedOffer service invocation,
    ⟨.command, .info, "service.started", [("command", command)]⟩]

def resolvedOffers (command blockText : String) (service : DryRun) (invocation : Invocation)
    (block : BlockRef) : List Offer :=
  startedOffers command blockText service invocation ++
    [⟨.command, .debug, "block_number.resolved", [("block", block.text)]⟩]

def readyOffers (command blockText : String) (service : DryRun) (invocation : Invocation)
    (operation : Operation) (block : BlockRef) : List Offer :=
  resolvedOffers command blockText service invocation block ++
    [⟨.command, .info, "command.run", [("command", command), ("operation", operation.name),
      ("block", block.text)]⟩]

def heardAfter (start : Run DryRun) (configuration : Configuration) (invocation : Invocation)
    (offers : List Offer) : Bool :=
  ((start.session.following configuration).offer offers).isCancelled invocation.token

/-- From the start to the finish come the given events, and then none that dispatches a stage. -/
def Logged (start finish : Run DryRun) (configuration : Configuration) (offers : List Offer) :
    Prop :=
  ∃ tail, Quiet tail ∧
    finish.session = (start.session.following configuration).offer (offers ++ tail)

theorem Logged.still_heard {start finish : Run DryRun} {configuration : Configuration}
    {invocation : Invocation} {offers : List Offer}
    (logged : Logged start finish configuration offers)
    (heard : heardAfter start configuration invocation offers = true) :
    finish.session.isCancelled invocation.token = true := by
  obtain ⟨tail, _, reached⟩ := logged
  rw [heardAfter, Session.isCancelled_iff, Session.mem_cancelled_offer_iff] at heard
  rw [reached, Session.isCancelled_iff, Session.mem_cancelled_offer_iff, List.map_append]
  exact heard.append _

end DryRun

namespace Pipeline

open DryRun

def offersUpTo (pipeline : Pipeline DryRun) (blockText : String) (invocation : Invocation)
    (service : DryRun) (block : BlockRef) (count : Nat) : List Offer :=
  readyOffers pipeline.command.name blockText service invocation pipeline.operation block ++
    (pipeline.operation.stages.take count).map (stageOffer service.configuration block)

/-! The moments of the checkpoints: starting asks after two events, the stages after six and one
more for each stage before. -/

def startMoment : Nat := 2

def stageMoment (stage : Nat) : Nat := 6 + stage

theorem offersUpTo_length {pipeline : Pipeline DryRun} {blockText : String}
    {invocation : Invocation} {service : DryRun} {block : BlockRef} {count : Nat}
    (bounded : count ≤ pipeline.operation.stages.length) :
    (pipeline.offersUpTo blockText invocation service block count).length = stageMoment count := by
  rw [offersUpTo, List.length_append, List.length_map, List.length_take_of_le bounded]
  rfl

structure Serving (urls : UrlLibrary) (pipeline : Pipeline DryRun) (layer : Layer)
    (blockText : String) (invocation : Invocation) (start : Run DryRun)
    (configuration : Configuration) (service : DryRun) : Prop where
  loaded : Configuration.load layer = .ok configuration
  made : ofConfiguration urls configuration = .ok service
  unheard : heardAfter start configuration invocation
    (createdOffers pipeline.command.name blockText) = false

structure Prepared (urls : UrlLibrary) (pipeline : Pipeline DryRun) (layer : Layer)
    (blockText : String) (invocation : Invocation) (start : Run DryRun)
    (configuration : Configuration) (service : DryRun) (block : BlockRef) : Prop extends
    Serving urls pipeline layer blockText invocation start configuration service where
  parsed : BlockRef.parse blockText = .ok block
  complete : FieldGroup.s3.missing? configuration = none

/-- How an invocation that runs dry can go. -/
inductive DryCourse (urls : UrlLibrary) (pipeline : Pipeline DryRun) (layer : Layer)
    (blockText : String) (invocation : Invocation) (start : Run DryRun) :
    Except Failure Unit → Run DryRun → List CallRecord → Prop
  | configRejected {cause finish} :
      Configuration.load layer = .error cause →
      (∃ tail, Quiet tail ∧ finish.session = start.session.offer tail) →
      DryCourse urls pipeline layer blockText invocation start (.error (.config cause)) finish []
  | createFailed {configuration fault finish} :
      Configuration.load layer = .ok configuration →
      ofConfiguration urls configuration = .error fault →
      Logged start finish configuration ((createdOffers pipeline.command.name blockText).take 1) →
      DryCourse urls pipeline layer blockText invocation start (.error (.create fault)) finish
        [⟨.create configuration, .gaveUp fault⟩]
  | startCancelled {configuration service finish} :
      Configuration.load layer = .ok configuration →
      ofConfiguration urls configuration = .ok service →
      heardAfter start configuration invocation
        (createdOffers pipeline.command.name blockText) = true →
      Logged start finish configuration (createdOffers pipeline.command.name blockText) →
      DryCourse urls pipeline layer blockText invocation start (.error (.start .cancelled)) finish
        [⟨.create configuration, .returned⟩, ⟨.start, .gaveUp .cancelled⟩]
  | blockRejected {configuration service cause finish} :
      pipeline.Serving urls layer blockText invocation start configuration service →
      BlockRef.parse blockText = .error cause →
      Logged start finish configuration
        (startedOffers pipeline.command.name blockText service invocation) →
      DryCourse urls pipeline layer blockText invocation start (.error (.block cause)) finish
        (setupCalls configuration)
  | storageIncomplete {configuration service block missing finish} :
      pipeline.Serving urls layer blockText invocation start configuration service →
      BlockRef.parse blockText = .ok block →
      FieldGroup.s3.missing? configuration = some missing →
      Logged start finish configuration
        (resolvedOffers pipeline.command.name blockText service invocation block) →
      DryCourse urls pipeline layer blockText invocation start (.error (.storage missing)) finish
        (setupCalls configuration)
  | refused {configuration service block fault finish} :
      pipeline.Prepared urls layer blockText invocation start configuration service block →
      service.started.obstacle? pipeline.operation = some fault →
      Logged start finish configuration (pipeline.offersUpTo blockText invocation service block 0) →
      finish.world.running = false →
      DryCourse urls pipeline layer blockText invocation start
        (.error (.run pipeline.command.name fault)) finish
        (setupCalls configuration ++
          [⟨.perform pipeline.operation block invocation.command, .gaveUp fault⟩,
            ⟨.stop, .returned⟩])
  | cutShort {configuration service block count finish} :
      pipeline.Prepared urls layer blockText invocation start configuration service block →
      service.started.obstacle? pipeline.operation = none →
      count < pipeline.operation.stages.length →
      (∀ earlier < count, heardAfter start configuration invocation
        (pipeline.offersUpTo blockText invocation service block earlier) = false) →
      heardAfter start configuration invocation
        (pipeline.offersUpTo blockText invocation service block count) = true →
      Logged start finish configuration
        (pipeline.offersUpTo blockText invocation service block count) →
      finish.world.running = false →
      DryCourse urls pipeline layer blockText invocation start
        (.error (.run pipeline.command.name .cancelled)) finish
        (setupCalls configuration ++
          [⟨.perform pipeline.operation block invocation.command, .gaveUp .cancelled⟩,
            ⟨.stop, .returned⟩])
  | completed {configuration service block finish} :
      pipeline.Prepared urls layer blockText invocation start configuration service block →
      service.started.obstacle? pipeline.operation = none →
      (∀ earlier < pipeline.operation.stages.length, heardAfter start configuration invocation
        (pipeline.offersUpTo blockText invocation service block earlier) = false) →
      Logged start finish configuration
        (pipeline.offersUpTo blockText invocation service block
          pipeline.operation.stages.length) →
      finish.world.running = false → finish.phase = .completed →
      DryCourse urls pipeline layer blockText invocation start (.ok ()) finish
        (setupCalls configuration ++
          [⟨.perform pipeline.operation block invocation.command, .returned⟩,
            ⟨.stop, .returned⟩])

variable {urls : UrlLibrary} {pipeline : Pipeline DryRun} {layer : Layer} {blockText : String}
  {invocation : Invocation} {start finish : Run DryRun} {calls : List CallRecord}

def failedOffer (pipeline : Pipeline DryRun) (failure : Failure) (phase : Phase) : Offer :=
  ⟨.command, .error, "command.failed", [("command", pipeline.command.name),
    ("stage", failure.stage.name), ("state", phase.name), ("code", failure.code),
    ("error", failure.text)]⟩

theorem eq_of_creation {configuration : Configuration} {present : Bool} {created : Run DryRun}
    (creation : (pipeline.configured configuration blockText start).called
      (DryRun.create urls configuration) = (.ok present, created)) :
    present = true ∧ ∃ service, ofConfiguration urls configuration = .ok service ∧
      created = { pipeline.configured configuration blockText start with world := service } := by
  rw [called_create] at creation
  cases made : ofConfiguration urls configuration with
  | error fault =>
      simp only [made, Prod.mk.injEq, reduceCtorEq, false_and] at creation
  | ok service =>
      simp only [made, Prod.mk.injEq, Except.ok.injEq] at creation
      exact ⟨creation.1.symm, service, rfl, creation.2.symm⟩

theorem starting_cases {configuration : Configuration} {service : DryRun}
    {created after : Run DryRun} {result : Except Fault Unit}
    (made : ofConfiguration urls configuration = .ok service)
    (same : created = { pipeline.configured configuration blockText start with world := service })
    (starting : (pipeline.serviceCreated created).called (DryRun.start invocation) =
      (result, after)) :
    (heardAfter start configuration invocation
        (createdOffers pipeline.command.name blockText) = true ∧
      result = .error .cancelled ∧ after = pipeline.serviceCreated created) ∨
    (heardAfter start configuration invocation
        (createdOffers pipeline.command.name blockText) = false ∧
      result = .ok () ∧ after = { pipeline.serviceCreated created with
        world := service.started
        session := (pipeline.serviceCreated created).session.offer
          [startedOffer service invocation] }) := by
  subst same
  obtain ⟨_, stopped, _⟩ := of_ofConfiguration made
  have world : (pipeline.serviceCreated { pipeline.configured configuration blockText start with
      world := service }).world = service := rfl
  have heard : (pipeline.serviceCreated { pipeline.configured configuration blockText start with
      world := service }).session.isCancelled invocation.token =
        heardAfter start configuration invocation
          (createdOffers pipeline.command.name blockText) := rfl
  rw [called_start (by rw [world]; exact stopped), heard, world] at starting
  cases cancelled : heardAfter start configuration invocation
      (createdOffers pipeline.command.name blockText) with
  | true =>
      rw [cancelled, if_pos rfl, Prod.mk.injEq] at starting
      exact Or.inl ⟨rfl, starting.1.symm, starting.2.symm⟩
  | false =>
      rw [cancelled, if_neg Bool.false_ne_true, Prod.mk.injEq] at starting
      exact Or.inr ⟨rfl, starting.1.symm, starting.2.symm⟩

theorem quiet_failedOffer (failure : Failure) (phase : Phase) :
    Quiet [pipeline.failedOffer failure phase] := by
  simp [Quiet, failedOffer]

theorem logged_of_setup {configuration : Configuration} {after : Run DryRun} {offers : List Offer}
    (failure : Failure)
    (reached : after.session = (start.session.following configuration).offer offers) :
    Logged start (pipeline.commandFailed failure (after.enter .setupFailed)) configuration
      offers := by
  refine ⟨[pipeline.failedOffer failure .setupFailed], quiet_failedOffer _ _, ?_⟩
  rw [Session.offer_append, ← reached]
  rfl

theorem SetupCourse.dryCourse {failure : Failure} {after : Run DryRun}
    (dry : pipeline.backend = DryRun.backend urls)
    (course : SetupCourse pipeline layer blockText invocation start (.error failure) after calls) :
    DryCourse urls pipeline layer blockText invocation start (.error failure)
      (pipeline.commandFailed failure (after.enter .setupFailed)) calls := by
  cases course with
  | configRejected rejected =>
      exact .configRejected rejected ⟨_, quiet_failedOffer _ _, rfl⟩
  | @createFailed configuration fault _ loaded failed =>
      rw [dry] at failed
      change (pipeline.configured configuration blockText start).called
        (DryRun.create urls configuration) = _ at failed
      rw [called_create] at failed
      cases made : ofConfiguration urls configuration with
      | ok service => simp [made] at failed
      | error cause =>
          simp only [made, Prod.mk.injEq, Except.error.injEq] at failed
          obtain ⟨rfl, rfl⟩ := failed
          exact .createFailed loaded made (logged_of_setup _ rfl)
  | serviceAbsent loaded absent =>
      rw [dry] at absent
      obtain ⟨present, _⟩ := eq_of_creation absent
      contradiction
  | startFailed loaded created failed =>
      rw [dry] at created failed
      obtain ⟨_, service, made, same⟩ := eq_of_creation created
      rcases starting_cases made same failed with ⟨heard, rejected, rfl⟩ | ⟨_, passed, _⟩
      · obtain rfl := Except.error.inj rejected
        subst same
        exact .startCancelled loaded made heard (logged_of_setup _ rfl)
      · contradiction
  | blockRejected loaded created started rejected =>
      rw [dry] at created started
      obtain ⟨_, service, made, same⟩ := eq_of_creation created
      rcases starting_cases made same started with ⟨_, failed, _⟩ | ⟨unheard, _, rfl⟩
      · contradiction
      · subst same
        exact .blockRejected ⟨loaded, made, unheard⟩ rejected (logged_of_setup _ rfl)
  | storageIncomplete loaded created started parsed incomplete =>
      rw [dry] at created started
      obtain ⟨_, service, made, same⟩ := eq_of_creation created
      rcases starting_cases made same started with ⟨_, failed, _⟩ | ⟨unheard, _, rfl⟩
      · contradiction
      · subst same
        exact .storageIncomplete ⟨loaded, made, unheard⟩ parsed incomplete (logged_of_setup _ rfl)

theorem SetupCourse.prepared {ready : Run DryRun} (dry : pipeline.backend = DryRun.backend urls)
    (course : SetupCourse pipeline layer blockText invocation start (.ok ()) ready calls)
    {block : BlockRef} (resolved : ready.context.block = some block) :
    ∃ configuration service,
      Prepared urls pipeline layer blockText invocation start configuration service block ∧
      calls = setupCalls configuration ∧ ready.world = service.started ∧
      (pipeline.commandRun block ready).session = (start.session.following configuration).offer
        (readyOffers pipeline.command.name blockText service invocation pipeline.operation
          block) := by
  cases course with
  | @ready configuration createdRun startedRun parsedBlock loaded created started parsed complete =>
      obtain rfl : parsedBlock = block := Option.some.inj resolved
      rw [dry] at created started
      obtain ⟨_, service, made, same⟩ := eq_of_creation created
      rcases starting_cases made same started with ⟨_, failed, _⟩ | ⟨unheard, _, rfl⟩
      · contradiction
      · subst same
        exact ⟨configuration, service, ⟨⟨loaded, made, unheard⟩, parsed, complete⟩, rfl, rfl, rfl⟩

theorem performing_cases {configuration : Configuration} {service : DryRun} {block : BlockRef}
    {ready ran : Run DryRun} {result : Except Fault Unit}
    (world : ready.world = service.started)
    (session : (pipeline.commandRun block ready).session =
      (start.session.following configuration).offer (readyOffers pipeline.command.name blockText
        service invocation pipeline.operation block))
    (performing : (pipeline.commandRun block ready).called
      (DryRun.perform pipeline.operation invocation block) = (result, ran)) :
    ∃ count, ran.world.running = true ∧
      ran.session = (start.session.following configuration).offer
        (pipeline.offersUpTo blockText invocation service block count) ∧
      ((∃ fault, service.started.obstacle? pipeline.operation = some fault ∧
          result = .error fault ∧ count = 0) ∨
        service.started.obstacle? pipeline.operation = none ∧
          (∀ earlier < count, heardAfter start configuration invocation
            (pipeline.offersUpTo blockText invocation service block earlier) = false) ∧
          (count < pipeline.operation.stages.length ∧ result = .error .cancelled ∧
              heardAfter start configuration invocation
                (pipeline.offersUpTo blockText invocation service block count) = true ∨
            count = pipeline.operation.stages.length ∧ result = .ok ())) := by
  have running : (pipeline.commandRun block ready).world = service.started := world
  have upTo (count : Nat) : (start.session.following configuration).offer
      (pipeline.offersUpTo blockText invocation service block count) =
        (pipeline.commandRun block ready).session.offer
          ((pipeline.operation.stages.take count).map
            (stageOffer service.configuration block)) := by
    rw [offersUpTo, Session.offer_append, session]
  cases obstacle : service.started.obstacle? pipeline.operation with
  | some fault =>
      rw [called_perform_of_obstacle block (by rw [running]; exact obstacle)] at performing
      obtain ⟨rfl, rfl⟩ := Prod.mk.inj performing
      refine ⟨0, by rw [running, started_running], ?_, Or.inl ⟨fault, rfl, rfl, rfl⟩⟩
      rw [upTo 0]
      rfl
  | none =>
      obtain ⟨count, bounded, performed, unheard, heard⟩ :=
        called_perform invocation block (by rw [running]; exact obstacle)
      rw [performed] at performing
      obtain ⟨rfl, rfl⟩ := Prod.mk.inj performing
      have configured : (pipeline.commandRun block ready).world.configuration =
          service.configuration := by rw [running, started_configuration]
      rw [configured] at unheard heard ⊢
      have stillRunning : (pipeline.commandRun block ready).world.running = true := by
        rw [running, started_running]
      refine ⟨count, stillRunning, (upTo count).symm, Or.inr ⟨rfl, ?_, ?_⟩⟩
      · intro earlier before
        rw [heardAfter, upTo]
        exact unheard earlier before
      · rcases Nat.lt_or_eq_of_le bounded with short | all
        · refine Or.inl ⟨short, if_neg (Nat.ne_of_lt short), ?_⟩
          rw [heardAfter, upTo]
          exact heard short
        · exact Or.inr ⟨all, if_pos all⟩

theorem of_stopping {ran stopped : Run DryRun} {phase : Phase} {result : Except Fault Unit}
    (running : ran.world.running = true)
    (stopping : (ran.enter phase).called (DryRun.stop invocation) = (result, stopped)) :
    result = .ok () ∧ stopped.world.running = false ∧
      stopped.session = ran.session.offer [stoppedOffer invocation] := by
  have still : (ran.enter phase).world.running = true := running
  rw [called_stop still] at stopping
  obtain ⟨rfl, rfl⟩ := Prod.mk.inj stopping
  exact ⟨rfl, rfl, rfl⟩

theorem logged_of_stopping {configuration : Configuration} {offers tail : List Offer}
    {ran stopped : Run DryRun} (quiet : Quiet tail)
    (reached : ran.session = (start.session.following configuration).offer offers)
    (stopping : stopped.session = ran.session.offer [stoppedOffer invocation])
    (finished : finish.session = stopped.session.offer tail) :
    Logged start finish configuration offers := by
  refine ⟨stoppedOffer invocation :: tail, ?_, ?_⟩
  · intro offer member
    rcases List.mem_cons.mp member with rfl | later
    · simp [stoppedOffer]
    · exact quiet offer later
  · rw [Session.offer_append, ← reached, finished, stopping]
    rfl

def serviceStoppedOffer (pipeline : Pipeline DryRun) : Offer :=
  ⟨.command, .info, "service.stopped", [("command", pipeline.command.name)]⟩

def completedOffer (pipeline : Pipeline DryRun) (block : BlockRef) : Offer :=
  ⟨.command, .info, "command.completed", [("command", pipeline.command.name),
    ("block", block.text)]⟩

theorem quiet_completed (block : BlockRef) :
    Quiet [pipeline.serviceStoppedOffer, pipeline.completedOffer block] := by
  simp [Quiet, serviceStoppedOffer, completedOffer]

theorem quiet_failed (failure : Failure) :
    Quiet [pipeline.serviceStoppedOffer, pipeline.failedOffer failure .failed] := by
  simp [Quiet, serviceStoppedOffer, failedOffer]

theorem InvokeCourse.dryCourse {result : Except Failure Unit}
    (dry : pipeline.backend = DryRun.backend urls)
    (course : InvokeCourse pipeline layer blockText invocation start result finish calls) :
    DryCourse urls pipeline layer blockText invocation start result finish calls := by
  cases course with
  | setupFailed setupCourse => exact setupCourse.dryCourse dry
  | @completed ready block ran stopped _ setupCourse resolved performed stopping =>
      obtain ⟨configuration, service, prepared, rfl, world, session⟩ :=
        setupCourse.prepared dry resolved
      rw [dry] at performed stopping
      obtain ⟨count, running, logged, outcome⟩ :=
        performing_cases world session performed
      obtain ⟨_, idle, stops⟩ := of_stopping running stopping
      rcases outcome with ⟨fault, _, failed, _⟩ | ⟨clear, unheard, ⟨_, failed, _⟩ | ⟨all, _⟩⟩
      · contradiction
      · contradiction
      · subst all
        exact .completed prepared clear unheard
          (logged_of_stopping (quiet_completed block) logged stops rfl) idle rfl
  | @stopFailed ready block ran fault stopped _ setupCourse resolved performed stopping =>
      obtain ⟨configuration, service, prepared, rfl, world, session⟩ :=
        setupCourse.prepared dry resolved
      rw [dry] at performed stopping
      obtain ⟨count, running, _⟩ := performing_cases world session performed
      obtain ⟨stopFine, _⟩ := of_stopping running stopping
      contradiction
  | @runFailed ready block fault ran stopped _ setupCourse resolved performed stopping =>
      obtain ⟨configuration, service, prepared, rfl, world, session⟩ :=
        setupCourse.prepared dry resolved
      rw [dry] at performed stopping
      obtain ⟨count, running, logged, outcome⟩ :=
        performing_cases world session performed
      obtain ⟨_, idle, stops⟩ := of_stopping running stopping
      rcases outcome with ⟨fault, obstacle, failed, rfl⟩ |
        ⟨clear, unheard, ⟨short, failed, heard⟩ | ⟨_, passed⟩⟩
      · obtain rfl := Except.error.inj failed
        exact .refused prepared obstacle
          (logged_of_stopping (quiet_failed _) logged stops rfl) idle
      · obtain rfl := Except.error.inj failed
        exact .cutShort prepared clear short unheard heard
          (logged_of_stopping (quiet_failed _) logged stops rfl) idle
      · contradiction
  | @bothFailed ready block fault ran later stopped _ setupCourse resolved performed stopping =>
      obtain ⟨configuration, service, prepared, rfl, world, session⟩ :=
        setupCourse.prepared dry resolved
      rw [dry] at performed stopping
      obtain ⟨count, running, _⟩ := performing_cases world session performed
      obtain ⟨stopFine, _⟩ := of_stopping running stopping
      contradiction

end Pipeline

end ProverInput
