import ProverInput.Command.Failure
import ProverInput.Configuration.Loading

/-!
The life of a command that is bound to an operation. Setup reads the configuration, creates and
starts the service, reads the block and checks the storage settings; then the operation runs; then
the service is stopped, whatever the operation did. Every step leaves its events in the log, and the
first failure is the one reported.
-/

namespace ProverInput

inductive Phase where
  | idle
  | configured
  | serviceCreated
  | serviceStarted
  | blockResolved
  | ready
  | setupFailed
  | ran
  | runFailed
  | completed
  | failed
  deriving DecidableEq, Repr

namespace Phase

def all : List Phase :=
  [.idle, .configured, .serviceCreated, .serviceStarted, .blockResolved, .ready, .setupFailed,
    .ran, .runFailed, .completed, .failed]

def name : Phase → String
  | .idle => "idle"
  | .configured => "configured"
  | .serviceCreated => "service-created"
  | .serviceStarted => "service-started"
  | .blockResolved => "block-resolved"
  | .ready => "ready"
  | .setupFailed => "setup-failed"
  | .ran => "ran"
  | .runFailed => "run-failed"
  | .completed => "completed"
  | .failed => "failed"

def nameAt (number : Int) : String :=
  Text.nameAt (all.map name) "unknown" number

end Phase

structure Context where
  configuration : Configuration := {}
  hasService : Bool := false
  block : Option BlockRef := none
  deriving DecidableEq, Repr

structure Run (World : Type) where
  phase : Phase := .idle
  context : Context := {}
  world : World
  session : Session := {}

/-- An action on a run. Its changes stay when it ends with an error. -/
abbrev Action (World ε α : Type) := ExceptT ε (StateM (Run World)) α

namespace Action

variable {World ε δ α : Type}

def attempt (action : Action World δ α) : Action World ε (Except δ α) :=
  fun run => let (result, after) := action run; (.ok result, after)

def enter (phase : Phase) : Action World ε Unit :=
  modify fun run => { run with phase }

def report (severity : Log.Severity) (name : String) (fields : List (String × String)) :
    Action World ε Unit :=
  modify fun run => { run with session := run.session.report .command ⟨severity, name, fields⟩ }

def call (procedure : Procedure World α) : Action World ε (Except Fault α) := do
  let run ← get
  let ((result, world), session) := run.session.perform (procedure run.world)
  set { run with world, session }
  return result

def require (procedure : Procedure World α) (failure : Fault → Failure) :
    Action World Failure α := do
  match ← call procedure with
  | .ok result => return result
  | .error fault => throw (failure fault)

def outcome (action : Action World Problem α) : Action World Problem (Except Failure α) := do
  match ← attempt action with
  | .ok result => return .ok result
  | .error (.failure cause) => return .error cause
  | .error (.misuse cause) => throw (.misuse cause)

end Action

structure Pipeline (World : Type) where
  command : Command
  operation : Operation
  bound : command.operation = some operation
  backend : Backend World

namespace Pipeline

variable {World : Type}

def make (command : Command) (backend : Option (Backend World)) :
    Except Misuse (Pipeline World) :=
  match bound : command.operation with
  | none => .error (.noOperation command.name)
  | some operation =>
    match backend with
    | none => .error .noBackend
    | some backend => .ok ⟨command, operation, bound, backend⟩

def reportFailure {ε : Type} (pipeline : Pipeline World) (failure : Failure) :
    Action World ε Unit := do
  Action.report .error "command.failed" [("command", pipeline.command.name),
    ("stage", failure.stage.name), ("state", (← get).phase.name), ("code", failure.code),
    ("error", failure.text)]

/-- Reads the configuration; from here on the log follows it. -/
def configure (pipeline : Pipeline World) (layer : Layer) (blockText : String) :
    Action World Failure Unit := do
  match Configuration.load layer with
  | .error cause => throw (.config cause)
  | .ok configuration =>
    modify fun run => { run with
      context.configuration := configuration
      session := run.session.adopt configuration.log.level configuration.log.format }
    Action.enter .configured
    Action.report .debug "command.setup" [("command", pipeline.command.name),
      ("block_argument", blockText)]

def createService (pipeline : Pipeline World) : Action World Failure Unit := do
  let configuration := (← get).context.configuration
  let created ← Action.require (pipeline.backend.create configuration) .create
  unless created do
    throw .absentService
  modify fun run => { run with context.hasService := true }
  Action.enter .serviceCreated
  Action.report .debug "service.created" [("command", pipeline.command.name)]

def startService (pipeline : Pipeline World) (invocation : Invocation) :
    Action World Failure Unit := do
  Action.require (pipeline.backend.start invocation) .start
  Action.enter .serviceStarted
  Action.report .info "service.started" [("command", pipeline.command.name)]

def resolveBlock (blockText : String) : Action World Failure Unit := do
  match BlockRef.parse blockText with
  | .error cause => throw (.block cause)
  | .ok block =>
    modify fun run => { run with context.block := some block }
    Action.enter .blockResolved
    Action.report .debug "block_number.resolved" [("block", block.text)]

def checkStorage : Action World Failure Unit := do
  match FieldGroup.s3.missing? (← get).context.configuration with
  | some missing => throw (.storage missing)
  | none => Action.enter .ready

def setupSteps (pipeline : Pipeline World) (layer : Layer) (blockText : String)
    (invocation : Invocation) : Action World Failure Unit := do
  pipeline.configure layer blockText
  pipeline.createService
  pipeline.startService invocation
  resolveBlock blockText
  checkStorage

def setup (pipeline : Pipeline World) (layer : Layer) (blockText : String)
    (invocation : Invocation) : Action World Problem Unit := do
  unless (← get).phase = .idle do
    throw (.misuse .setupRepeated)
  match ← Action.attempt (pipeline.setupSteps layer blockText invocation) with
  | .ok () => return
  | .error failure =>
    Action.enter .setupFailed
    pipeline.reportFailure failure
    throw (.failure failure)

def run (pipeline : Pipeline World) (invocation : Invocation) : Action World Problem Unit := do
  let state ← get
  match state.phase, state.context.block with
  | .ready, some block =>
    Action.report .info "command.run" [("command", pipeline.command.name),
      ("operation", pipeline.operation.name), ("block", block.text)]
    match ← Action.call (pipeline.backend.perform pipeline.operation invocation block) with
    | .ok () => Action.enter .ran
    | .error fault =>
      Action.enter .runFailed
      throw (.failure (.run pipeline.command.name fault))
  | _, _ => throw (.misuse .runOutOfTurn)

def teardown (pipeline : Pipeline World) (invocation : Invocation) :
    Action World Problem Unit := do
  let phase := (← get).phase
  unless phase = .ran ∨ phase = .runFailed do
    throw (.misuse .teardownOutOfTurn)
  match ← Action.call (pipeline.backend.stop invocation) with
  | .ok () =>
    Action.enter (if phase = .runFailed then .failed else .completed)
    Action.report .info "service.stopped" [("command", pipeline.command.name)]
  | .error fault =>
    let failure := Failure.stop fault
    Action.enter .failed
    Action.report (if phase = .runFailed then .warning else .error) "service.stop_failed"
      [("command", pipeline.command.name), ("error", failure.text)]
    throw (.failure failure)

/-- The whole life of a command. A failure of the run is reported even if stopping the service
fails too. -/
def invoke (pipeline : Pipeline World) (layer : Layer) (blockText : String)
    (invocation : Invocation) : Action World Problem Unit := do
  pipeline.setup layer blockText invocation
  let ran ← Action.outcome (pipeline.run invocation)
  let stopped ← Action.outcome (pipeline.teardown invocation)
  match ran, stopped with
  | .error failure, _ | .ok (), .error failure =>
    pipeline.reportFailure failure
    throw (.failure failure)
  | .ok (), .ok () =>
    let block := ((← get).context.block.map BlockRef.text).getD ""
    Action.report .info "command.completed" [("command", pipeline.command.name), ("block", block)]

end Pipeline

end ProverInput
