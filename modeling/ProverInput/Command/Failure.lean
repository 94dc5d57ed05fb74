import ProverInput.Configuration.Error
import ProverInput.FieldGroup
import ProverInput.Service.Backend

/-!
Failures of a command: the stage that failed, and the code, text and hint that report it. Misuse is
kept apart: it means that the caller broke the order of calls, not that anything failed.
-/

namespace ProverInput

inductive Stage where
  | config
  | serviceCreate
  | serviceStart
  | blockNumber
  | validation
  | run
  | teardown
  | output
  deriving DecidableEq, Repr

namespace Stage

def all : List Stage :=
  [.config, .serviceCreate, .serviceStart, .blockNumber, .validation, .run, .teardown, .output]

def name : Stage → String
  | .config => "config"
  | .serviceCreate => "service-create"
  | .serviceStart => "service-start"
  | .blockNumber => "block-number"
  | .validation => "validation"
  | .run => "run"
  | .teardown => "teardown"
  | .output => "output"

def nameAt (number : Int) : String :=
  Text.nameAt (all.map name) "unknown" number

end Stage

inductive Failure where
  | config (cause : ConfigError)
  | create (cause : Fault)
  | absentService
  | start (cause : Fault)
  | block (cause : BlockError)
  | storage (missing : MissingFields)
  | run (command : String) (cause : Fault)
  | stop (cause : Fault)
  | output
  deriving DecidableEq, Repr

namespace Failure

def stage : Failure → Stage
  | .config _ => .config
  | .create _ | .absentService => .serviceCreate
  | .start _ => .serviceStart
  | .block _ => .blockNumber
  | .storage _ => .validation
  | .run _ _ => .run
  | .stop _ => .teardown
  | .output => .output

def code : Failure → String
  | .config cause => cause.code
  | .create _ | .absentService => "E_SERVICE_CREATE"
  | .start _ => "E_SERVICE_START"
  | .block _ => "E_INVALID_BLOCK_NUMBER"
  | .storage _ => "E_S3_CONFIG_INCOMPLETE"
  | .run _ _ => "E_RUN_FAILED"
  | .stop _ => "E_SERVICE_STOP"
  | .output => "E_CONFIG_OUTPUT"

def text : Failure → String
  | .config cause => cause.text
  | .create cause => "failed to create prover inputs service: " ++ cause.message
  | .absentService => "failed to create prover inputs service: factory returned no service"
  | .start cause => "failed to start prover inputs service: " ++ cause.message
  | .block cause => "invalid block number: " ++ cause.message
  | .storage missing => missing.message
  | .run command cause => command ++ " failed: " ++ cause.message
  | .stop cause => "failed to stop prover inputs service: " ++ cause.message
  | .output => "failed to write configuration to output stream"

def hint : Failure → String
  | .config cause => cause.hint
  | .create _ => "Check --chain-rpc-url and the store settings"
  | .start _ => "Verify the chain RPC endpoint is reachable"
  | .block _ => "Use a decimal or 0x-prefixed height, or one of "
      ++ ", ".intercalate (BlockTag.all.map BlockTag.name)
  | .storage _ => "Set --s3-bucket, --s3-access-key, --s3-secret-key and --s3-region together, "
      ++ "or none of them"
  | .absentService | .run _ _ | .stop _ | .output => ""

def details : Failure → List String
  | .storage missing => missing.names
  | _ => []

def headline (failure : Failure) : String :=
  Text.headline failure.code failure.text

end Failure

inductive Misuse where
  | noOperation (command : String)
  | noBackend
  | setupRepeated
  | runOutOfTurn
  | teardownOutOfTurn
  deriving DecidableEq, Repr

namespace Misuse

def text : Misuse → String
  | .noOperation command => command ++ " is not a pipeline command"
  | .noBackend => "a service factory is required"
  | .setupRepeated => "setup may only run once per command invocation"
  | .runOutOfTurn => "run requires a successful setup"
  | .teardownOutOfTurn => "teardown requires a successful setup and an attempted run"

end Misuse

inductive Problem where
  | misuse (cause : Misuse)
  | failure (cause : Failure)
  deriving DecidableEq, Repr

end ProverInput
