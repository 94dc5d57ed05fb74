import ProverInput.Command.Failure
import ProverInput.Configuration.Loading
import ProverInput.Tree.Json

/-!
The command that prints the configuration. It creates no service and leaves nothing in the log.
-/

namespace ProverInput

def Configuration.dump (configuration : Configuration) : String :=
  configuration.toTree.json 2 ++ "\n"

def showConfig (layer : Layer) (outputWorks : Bool) : Except Failure String :=
  match Configuration.load layer with
  | .error cause => .error (.config cause)
  | .ok configuration => if outputWorks then .ok configuration.dump else .error .output

end ProverInput
