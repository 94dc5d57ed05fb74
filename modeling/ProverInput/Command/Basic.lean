import ProverInput.Text.Names

/-!
The commands of the program. All but one are bound to an operation of the service that produces
prover inputs.
-/

namespace ProverInput

inductive Operation where
  | generate
  | preflight
  | prepare
  | execute
  deriving DecidableEq, Repr

namespace Operation

def all : List Operation := [.generate, .preflight, .prepare, .execute]

def name : Operation → String
  | .generate => "generate"
  | .preflight => "preflight"
  | .prepare => "prepare"
  | .execute => "execute"

def nameAt (number : Int) : String :=
  Text.nameAt (all.map name) "unknown" number

def stages : Operation → List Operation
  | .generate => [.preflight, .prepare, .execute]
  | operation => [operation]

/-- Whether the operation needs a chain endpoint. The others need a chain identity only. -/
def needsEndpoint : Operation → Bool
  | .generate | .preflight => true
  | .prepare | .execute => false

end Operation

structure Command where
  name : String
  summary : String
  description : String
  operation : Option Operation
  deriving DecidableEq, Repr

namespace Command

def generate : Command where
  name := "generate"
  summary := "Generate prover input for a specific block"
  description := "Generate prover inputs by running preflight, prepare and execute in a single "
    ++ "run. It runs online and requires --chain-rpc-url to be set to a remote JSON-RPC Ethereum "
    ++ "Execution Layer node."
  operation := some .generate

def preflight : Command where
  name := "preflight"
  summary := "Collect necessary data to generate prover inputs from a remote JSON-RPC Ethereum "
    ++ "Execution Layer node"
  description := "Collect necessary data to generate prover inputs from a remote JSON-RPC "
    ++ "Ethereum Execution Layer node. It runs online and requires --chain-rpc-url to be set to a "
    ++ "remote JSON-RPC Ethereum Execution Layer node."
  operation := some .preflight

def prepare : Command where
  name := "prepare"
  summary := "Prepare prover inputs by basing on data previously collected during preflight"
  description := "Prepare prover inputs by basing on data previously collected during preflight. "
    ++ "It can be run offline, in which case it needs --chain-id to be provided."
  operation := some .prepare

def execute : Command where
  name := "execute"
  summary := "Execute block by basing on prover inputs previously generated during prepare"
  description := "Execute block by basing on prover inputs previously generated during prepare. "
    ++ "It can be run offline, in which case it needs --chain-id to be provided."
  operation := some .execute

def config : Command where
  name := "config"
  summary := "Returns current configuration"
  description := "Print the resolved configuration, defaults included, as JSON on standard output."
  operation := none

def all : List Command := [generate, preflight, prepare, execute, config]

def find? (name : String) : Option Command :=
  all.find? (·.name = name)

end Command

end ProverInput
