import ProverInput.Proofs.Command.Action
import ProverInput.Proofs.Log.Offers
import ProverInput.Service.DryRun

/-!
What the procedures of a dry run do to a run: the service they leave, and the events they offer.
-/

namespace ProverInput

namespace DryRun

def started (service : DryRun) : DryRun :=
  { service with running := true }

@[simp] theorem started_running (service : DryRun) : service.started.running = true := rfl

@[simp] theorem started_endpoint (service : DryRun) :
    service.started.endpoint = service.endpoint := rfl

@[simp] theorem started_configuration (service : DryRun) :
    service.started.configuration = service.configuration := rfl

def startedOffer (service : DryRun) (invocation : Invocation) : Offer :=
  let place := match service.endpoint with
    | some endpoint => ("rpc_host", endpoint.host)
    | none => ("mode", "offline")
  ⟨.service, .debug, "dry_run.started", [("command", invocation.command), place]⟩

def stoppedOffer (invocation : Invocation) : Offer :=
  ⟨.service, .debug, "dry_run.stopped", [("command", invocation.command)]⟩

def stageOffer (configuration : Configuration) (block : BlockRef) (stage : Operation) : Offer :=
  ⟨.service, .info, "stage.dispatched", stageFields configuration stage block⟩

variable {urls : UrlLibrary} {run : Run DryRun} {invocation : Invocation}
  {configuration : Configuration}

theorem called_create (urls : UrlLibrary) (run : Run DryRun) (configuration : Configuration) :
    run.called (create urls configuration) = match ofConfiguration urls configuration with
      | .ok service => (.ok true, { run with world := service })
      | .error fault => (.error fault, run) := by
  unfold create
  cases ofConfiguration urls configuration with
  | error fault => rfl
  | ok service => rfl

theorem called_start (stopped : run.world.running = false) (invocation : Invocation) :
    run.called (start invocation) =
      if run.session.isCancelled invocation.token then (.error .cancelled, run)
      else (.ok (), { run with
        world := run.world.started
        session := run.session.offer [startedOffer run.world invocation] }) := by
  have asked : run.called (get : Procedure DryRun DryRun) = (.ok run.world, run) := rfl
  rw [start, Run.called_bind, asked]
  simp only [stopped, Bool.false_eq_true, if_false]
  rw [Run.called_bind, Run.called_checkpoint]
  cases run.session.isCancelled invocation.token with
  | true => rfl
  | false => rfl

theorem called_stop (running : run.world.running = true) (invocation : Invocation) :
    run.called (stop invocation) = (.ok (), { run with
      world.running := false
      session := run.session.offer [stoppedOffer invocation] }) := by
  rcases run with ⟨phase, context, ⟨configuration, endpoint, stillRunning⟩, session⟩
  obtain rfl : stillRunning = true := running
  rfl

theorem called_runStage (run : Run DryRun) (invocation : Invocation) (block : BlockRef)
    (stage : Operation) :
    run.called (runStage invocation block stage) =
      if run.session.isCancelled invocation.token then (.error .cancelled, run)
      else (.ok (), { run with
        session := run.session.offer [stageOffer run.world.configuration block stage] }) := by
  rw [runStage, Run.called_bind, Run.called_checkpoint]
  cases run.session.isCancelled invocation.token with
  | true => rfl
  | false => rfl

/-- The stages are dispatched one by one, up to the first whose checkpoint finds the token
cancelled. -/
theorem calledInTurn_stages (run : Run DryRun) (invocation : Invocation) (block : BlockRef)
    (stages : List Operation) :
    ∃ count, count ≤ stages.length ∧
      run.calledInTurn (stages.map (runStage invocation block)) =
        (if count = stages.length then .ok () else .error .cancelled,
          { run with
            session := run.session.offer
              ((stages.take count).map (stageOffer run.world.configuration block)) }) ∧
      (∀ earlier < count, (run.session.offer ((stages.take earlier).map
        (stageOffer run.world.configuration block))).isCancelled invocation.token = false) ∧
      (count < stages.length → (run.session.offer ((stages.take count).map
        (stageOffer run.world.configuration block))).isCancelled invocation.token = true) := by
  induction stages generalizing run with
  | nil => exact ⟨0, Nat.le_refl 0, rfl, by simp, by simp⟩
  | cons stage rest ih =>
      rw [List.map_cons, Run.calledInTurn, called_runStage]
      cases cancelled : run.session.isCancelled invocation.token with
      | true => exact ⟨0, Nat.zero_le _, rfl, by simp, fun _ => cancelled⟩
      | false =>
          obtain ⟨count, bounded, called, unheard, heard⟩ := ih
            { run with
              session := run.session.offer [stageOffer run.world.configuration block stage] }
          refine ⟨count + 1, Nat.succ_le_succ bounded, ?_, ?_, ?_⟩
          · simp only [List.length_cons, Nat.add_right_cancel_iff]
            exact called
          · intro earlier before
            cases earlier with
            | zero => exact cancelled
            | succ earlier => exact unheard earlier (Nat.lt_of_succ_lt_succ before)
          · intro before
            exact heard (Nat.lt_of_succ_lt_succ before)

theorem perform_apply (operation : Operation) (invocation : Invocation) (block : BlockRef)
    (service : DryRun) :
    perform operation invocation block service =
      (match service.obstacle? operation with
        | some fault => throw fault
        | none => operation.stages.forM (runStage invocation block) : Procedure DryRun Unit)
          service := rfl

theorem called_perform_of_obstacle {operation : Operation} {fault : Fault} (block : BlockRef)
    (refused : run.world.obstacle? operation = some fault) :
    run.called (perform operation invocation block) = (.error fault, run) := by
  simp only [Run.called, perform_apply, refused]
  rfl

theorem called_perform_of_clear {operation : Operation} {block : BlockRef}
    (clear : run.world.obstacle? operation = none) :
    run.called (perform operation invocation block) =
      run.calledInTurn (operation.stages.map (runStage invocation block)) := by
  rw [← Run.called_forM]
  simp only [Run.called, perform_apply, clear]

theorem called_perform {operation : Operation} (invocation : Invocation) (block : BlockRef)
    (clear : run.world.obstacle? operation = none) :
    ∃ count, count ≤ operation.stages.length ∧
      run.called (perform operation invocation block) =
        (if count = operation.stages.length then .ok () else .error .cancelled,
          { run with
            session := run.session.offer ((operation.stages.take count).map
              (stageOffer run.world.configuration block)) }) ∧
      (∀ earlier < count, (run.session.offer ((operation.stages.take earlier).map
        (stageOffer run.world.configuration block))).isCancelled invocation.token = false) ∧
      (count < operation.stages.length → (run.session.offer ((operation.stages.take count).map
        (stageOffer run.world.configuration block))).isCancelled invocation.token = true) := by
  rw [called_perform_of_clear clear]
  exact calledInTurn_stages run invocation block operation.stages

theorem exists_ofConfiguration_iff (urls : UrlLibrary) (configuration : Configuration) :
    (∃ service, ofConfiguration urls configuration = .ok service) ↔
      configuration.chain.rpcUrl = "" ∨
        ∃ endpoint, Endpoint.parse configuration.chain.rpcUrl urls = .ok endpoint := by
  unfold ofConfiguration
  by_cases offline : configuration.chain.rpcUrl = ""
  · simp [offline]
  · cases parsed : Endpoint.parse configuration.chain.rpcUrl urls with
    | error cause => simp [offline, parsed]
    | ok endpoint => simp [offline, parsed]

theorem of_ofConfiguration {service : DryRun}
    (made : ofConfiguration urls configuration = .ok service) :
    service.configuration = configuration ∧ service.running = false ∧
      (service.endpoint.isSome = true ↔ configuration.chain.rpcUrl ≠ "") := by
  unfold ofConfiguration at made
  by_cases offline : configuration.chain.rpcUrl = ""
  · simp only [offline, if_true, Except.ok.injEq] at made
    subst made
    exact ⟨rfl, rfl, by simp [offline]⟩
  · cases parsed : Endpoint.parse configuration.chain.rpcUrl urls with
    | error cause => simp [offline, parsed] at made
    | ok endpoint =>
        simp only [offline, if_false, parsed, Except.ok.injEq] at made
        subst made
        exact ⟨rfl, rfl, by simp [offline]⟩

theorem started_obstacle_eq_none_iff (service : DryRun) (operation : Operation) :
    service.started.obstacle? operation = none ↔ service.endpoint.isSome = true ∨
      ((operation = .prepare ∨ operation = .execute) ∧
        service.configuration.chain.id.isSome = true) := by
  simp only [obstacle?, started_running, started_endpoint, started_configuration]
  by_cases online : service.endpoint.isSome = true
  · simp [online]
  · by_cases known : service.configuration.chain.id.isSome = true
    · cases operation <;> simp [online, known, Operation.needsEndpoint]
    · cases operation <;> simp [online, known, Operation.needsEndpoint]

end DryRun

end ProverInput
