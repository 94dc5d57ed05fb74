import ProverInput.Service.Backend

/-!
A backend that does nothing but follow a script: each procedure succeeds or gives up as written.
-/

namespace ProverInput

structure Script where
  createFault : Option Fault := none
  startFault : Option Fault := none
  performFault : Option Fault := none
  stopFault : Option Fault := none
  absent : Bool := false
  deriving DecidableEq, Repr

namespace Script

def follow (fault : Option Fault) : Procedure Unit Unit :=
  match fault with
  | some fault => throw fault
  | none => pure ()

/-- The backend of a script. A cancelled token stops an operation before its own fault does. -/
def backend (script : Script) : Backend Unit where
  create _ := do
    follow script.createFault
    return !script.absent
  start _ := follow script.startFault
  perform _ invocation _ := do
    Procedure.checkpoint invocation.token
    follow script.performFault
  stop _ := follow script.stopFault

end Script

end ProverInput
