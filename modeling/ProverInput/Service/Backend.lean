import ProverInput.Block
import ProverInput.Command.Basic
import ProverInput.Configuration.Basic
import ProverInput.Endpoint.Basic
import ProverInput.Service.Work

/-!
Backends that produce prover inputs. A backend is the four procedures that a command calls, over a
world of its own; any backend can be recorded, which adds to its world the list of calls and how each
of them ended.
-/

namespace ProverInput

inductive Fault where
  | cancelled
  | badEndpoint (url : String) (cause : EndpointError)
  | notRunning
  | notStarted (operation : Operation)
  | needsEndpoint (operation : Operation)
  | needsChainIdentity (operation : Operation)
  | other (description : String)
  deriving DecidableEq, Repr

namespace Fault

def description : Fault → String
  | .cancelled => "operation cancelled"
  | .badEndpoint url cause => "invalid chain RPC URL '" ++ url ++ "': " ++ cause.reason
  | .notRunning => "service is not running"
  | .notStarted operation => operation.name ++ " called before the service was started"
  | .needsEndpoint operation =>
    operation.name ++ " runs online and requires chain.rpc-url (--chain-rpc-url)"
  | .needsChainIdentity operation =>
    operation.name ++ " runs offline and requires chain.id (--chain-id)"
  | .other description => description

def message (fault : Fault) : String :=
  Text.beforeNul fault.description

end Fault

structure Invocation where
  command : String
  token : Token
  deriving DecidableEq, Repr

/-- A procedure may change the world and then give up; the change stays. -/
abbrev Procedure (World α : Type) := ExceptT Fault (StateT World Work) α

namespace Procedure

variable {World : Type}

def report (severity : Log.Severity) (name : String) (fields : List (String × String)) :
    Procedure World Unit :=
  fun world => .report ⟨severity, name, fields⟩ (.done (.ok (), world))

def checkpoint (token : Token) : Procedure World Unit :=
  fun world => .poll token fun cancelled =>
    .done (if cancelled then .error .cancelled else .ok (), world)

end Procedure

structure Backend (World : Type) where
  /-- Makes the service of a configuration; false when there is none. -/
  create : Configuration → Procedure World Bool
  start : Invocation → Procedure World Unit
  perform : Operation → Invocation → BlockRef → Procedure World Unit
  stop : Invocation → Procedure World Unit

inductive Call where
  | create (configuration : Configuration)
  | start
  | perform (operation : Operation) (block : BlockRef) (command : String)
  | stop
  deriving DecidableEq, Repr

inductive CallEnd where
  | returned
  | absent
  | gaveUp (cause : Fault)
  deriving DecidableEq, Repr

structure CallRecord where
  call : Call
  ended : CallEnd
  deriving DecidableEq, Repr

namespace Backend

variable {World α : Type}

def record (call : Call) (ended : α → CallEnd) (procedure : Procedure World α) :
    Procedure (World × List CallRecord) α :=
  fun (world, calls) => (procedure world).bind fun (result, after) =>
    let entry : CallRecord := ⟨call, match result with
      | .ok value => ended value
      | .error cause => .gaveUp cause⟩
    .done (result, after, calls ++ [entry])

def recorded (backend : Backend World) : Backend (World × List CallRecord) where
  create configuration :=
    record (.create configuration) (fun created => if created then .returned else .absent)
      (backend.create configuration)
  start invocation := record .start (fun _ => .returned) (backend.start invocation)
  perform operation invocation block :=
    record (.perform operation block invocation.command) (fun _ => .returned)
      (backend.perform operation invocation block)
  stop invocation := record .stop (fun _ => .returned) (backend.stop invocation)

end Backend

end ProverInput
