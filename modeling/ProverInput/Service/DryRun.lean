import ProverInput.Service.Backend

/-!
The backend of a dry run. It keeps the rules of starting and stopping and the needs of every stage,
and reports each stage as an event instead of processing block data.
-/

namespace ProverInput

structure DryRun where
  configuration : Configuration := {}
  endpoint : Option Endpoint := none
  running : Bool := false
  deriving DecidableEq, Repr

namespace DryRun

def ofConfiguration (urls : UrlLibrary) (configuration : Configuration) : Except Fault DryRun :=
  let url := configuration.chain.rpcUrl
  if url = "" then .ok { configuration }
  else match Endpoint.parse url urls with
    | .ok endpoint => .ok { configuration, endpoint := some endpoint }
    | .error cause => .error (.badEndpoint url cause)

def create (urls : UrlLibrary) (configuration : Configuration) : Procedure DryRun Bool := do
  match ofConfiguration urls configuration with
  | .ok service =>
    set service
    return true
  | .error fault => throw fault

def start (invocation : Invocation) : Procedure DryRun Unit := do
  let service ← get
  if service.running then
    return
  Procedure.checkpoint invocation.token
  set { service with running := true }
  let place := match service.endpoint with
    | some endpoint => ("rpc_host", endpoint.host)
    | none => ("mode", "offline")
  Procedure.report .debug "dry_run.started" [("command", invocation.command), place]

def stop (invocation : Invocation) : Procedure DryRun Unit := do
  let service ← get
  unless service.running do
    throw .notRunning
  set { service with running := false }
  Procedure.report .debug "dry_run.stopped" [("command", invocation.command)]

def stageFields (configuration : Configuration) (stage : Operation) (block : BlockRef) :
    List (String × String) :=
  let chain := match configuration.chain.id with
    | some id => String.ofList (Numeral.write 10 id.toNat)
    | none => "auto"
  let shared := [("stage", stage.name), ("block", block.rpcArgument), ("chain", chain)]
  match stage with
  | .preflight => shared ++ [("store", configuration.preflightDir)]
  | _ => shared ++ [("store", configuration.inputs.dir),
      ("content_type", configuration.inputs.contentType)]

def runStage (invocation : Invocation) (block : BlockRef) (stage : Operation) :
    Procedure DryRun Unit := do
  Procedure.checkpoint invocation.token
  let service ← get
  Procedure.report .info "stage.dispatched" (stageFields service.configuration stage block)

def obstacle? (service : DryRun) (operation : Operation) : Option Fault :=
  if !service.running then some (.notStarted operation)
  else if service.endpoint.isSome then none
  else if operation.needsEndpoint then some (.needsEndpoint operation)
  else if service.configuration.chain.id.isSome then none
  else some (.needsChainIdentity operation)

def perform (operation : Operation) (invocation : Invocation) (block : BlockRef) :
    Procedure DryRun Unit := do
  match (← get).obstacle? operation with
  | some fault => throw fault
  | none => operation.stages.forM (runStage invocation block)

def backend (urls : UrlLibrary := .plain) : Backend DryRun where
  create := create urls
  start := start
  perform := perform
  stop := stop

end DryRun

end ProverInput
