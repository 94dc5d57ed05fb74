import ProverInput.Proofs.DryRun.Procedures
import ProverInput.Proofs.Text.Reported

/-!
Generating as the composition of its stages. The composite operation checks its needs once and the
single stages check theirs one by one, by a weaker rule; the two make no difference.
-/

namespace ProverInput.DryRun

variable {run : Run DryRun} {invocation : Invocation} {block : BlockRef}

theorem world_of_runStage {stage : Operation} {result : Except Fault Unit} {after : Run DryRun}
    (ended : run.called (runStage invocation block stage) = (result, after)) :
    after.world = run.world := by
  rw [called_runStage] at ended
  split at ended
  · obtain ⟨-, rfl⟩ := Prod.mk.inj ended
    rfl
  · obtain ⟨-, rfl⟩ := Prod.mk.inj ended
    rfl

theorem calledInTurn_perform (stages : List Operation)
    (single : ∀ stage ∈ stages, stage.stages = [stage])
    (clear : ∀ stage ∈ stages, run.world.obstacle? stage = none) :
    run.calledInTurn (stages.map fun stage => perform stage invocation block) =
      run.calledInTurn (stages.map (runStage invocation block)) := by
  induction stages generalizing run with
  | nil => rfl
  | cons stage rest ih =>
      have alone : run.called (perform stage invocation block) =
          run.called (runStage invocation block stage) := by
        rw [called_perform_of_clear (clear stage List.mem_cons_self),
          single stage List.mem_cons_self, List.map_singleton, Run.calledInTurn_singleton]
      rw [List.map_cons, List.map_cons, Run.calledInTurn, Run.calledInTurn, alone]
      rcases ended : run.called (runStage invocation block stage) with ⟨fault | done, after⟩
      · rfl
      -- No stage changes the service, so what was clear for the later stages stays clear.
      · have later : ∀ stage ∈ rest, after.world.obstacle? stage = none := by
          intro stage member
          rw [world_of_runStage ended]
          exact clear stage (List.mem_cons_of_mem _ member)
        exact ih (fun stage member => single stage (List.mem_cons_of_mem _ member)) later

theorem obstacle?_of_online (running : run.world.running = true)
    (online : run.world.endpoint.isSome = true) (operation : Operation) :
    run.world.obstacle? operation = none := by
  simp [obstacle?, running, online]

def stagewise (invocation : Invocation) (block : BlockRef) : List (Procedure DryRun Unit) :=
  [perform .preflight invocation block, perform .prepare invocation block,
    perform .execute invocation block]

theorem calledInTurn_of_obstacle {operation : Operation} {fault : Fault}
    (rest : List (Procedure DryRun Unit))
    (refused : run.world.obstacle? operation = some fault) :
    run.calledInTurn (perform operation invocation block :: rest) = (.error fault, run) := by
  rw [Run.calledInTurn, called_perform_of_obstacle block refused]

theorem obstacle?_of_unready (operation : Operation) (needs : operation.needsEndpoint = true)
    (unready : ¬ (run.world.running = true ∧ run.world.endpoint.isSome = true)) :
    run.world.obstacle? operation = some
      (if run.world.running then .needsEndpoint operation else .notStarted operation) := by
  by_cases running : run.world.running = true
  · have offline : ¬ run.world.endpoint.isSome = true := fun online => unready ⟨running, online⟩
    simp [obstacle?, running, offline, needs]
  · simp [obstacle?, running]

def unreadiness (service : DryRun) : String :=
  Text.beforeNul <|
    if service.running then " runs online and requires chain.rpc-url (--chain-rpc-url)"
    else " called before the service was started"

theorem message_of_unready (service : DryRun) (operation : Operation) :
    Fault.message (if service.running then .needsEndpoint operation else .notStarted operation) =
      operation.name ++ service.unreadiness := by
  -- A complaint ends before its first NUL, so the name in front of it must hold none.
  have clean : '\x00' ∉ operation.name.toList := by cases operation <;> decide
  rw [unreadiness, ← Text.beforeNul_append clean]
  cases service.running with
  | true => rfl
  | false => rfl

/-- Generating has the effect of its three stages called in turn, whenever the token is cancelled. A
service that cannot generate refuses both, with messages that differ in the name of the stage. -/
theorem generate_composed_of_stages (run : Run DryRun) (invocation : Invocation)
    (block : BlockRef) :
    (run.world.running = true → run.world.endpoint.isSome = true →
      run.called (perform .generate invocation block) =
        run.calledInTurn (stagewise invocation block)) ∧
    (¬ (run.world.running = true ∧ run.world.endpoint.isSome = true) →
      ∃ fault stageFault complaint,
        run.called (perform .generate invocation block) = (.error fault, run) ∧
        run.calledInTurn (stagewise invocation block) = (.error stageFault, run) ∧
        fault.message = "generate" ++ complaint ∧
        stageFault.message = "preflight" ++ complaint) := by
  constructor
  · intro running online
    have clear := obstacle?_of_online running online
    rw [called_perform_of_clear (clear .generate)]
    symm
    exact calledInTurn_perform [.preflight, .prepare, .execute] (by decide)
      fun stage _ => clear stage
  · intro unready
    have refused := obstacle?_of_unready .generate rfl unready
    have stageRefused := obstacle?_of_unready .preflight rfl unready
    exact ⟨_, _, run.world.unreadiness, called_perform_of_obstacle block refused,
      calledInTurn_of_obstacle _ stageRefused, message_of_unready _ _, message_of_unready _ _⟩

theorem generate_composed_interrupted_and_idle :
    let service : DryRun := { endpoint := some ⟨"http", "localhost", ""⟩, running := true }
    let run : Run DryRun := { world := service, session := { interruption := some ⟨1, ⟨0⟩⟩ } }
    let idle : Run DryRun := { run with world.running := false }
    let invocation : Invocation := ⟨"test", ⟨0⟩⟩
    let generated := run.called (perform .generate invocation (.height 16))
    generated.1 = .error .cancelled ∧
      generated.2.session.entries.map (·.event.fields.lookup "stage") = [some "preflight"] ∧
      generated = run.calledInTurn (stagewise invocation (.height 16)) ∧
      ∃ fault stageFault complaint,
        idle.called (perform .generate invocation (.height 16)) = (.error fault, idle) ∧
        idle.calledInTurn (stagewise invocation (.height 16)) = (.error stageFault, idle) ∧
        fault.message = "generate" ++ complaint ∧
        stageFault.message = "preflight" ++ complaint := by
  intro service run idle invocation generated
  refine ⟨rfl, by decide +kernel, ?_, ?_⟩
  · exact (generate_composed_of_stages run invocation (.height 16)).1 rfl rfl
  · exact (generate_composed_of_stages idle invocation (.height 16)).2 (by decide)

end ProverInput.DryRun
