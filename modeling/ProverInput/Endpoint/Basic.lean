import ProverInput.Endpoint.Plain
import ProverInput.Text.Reported

/-!
The JSON-RPC endpoint that a URL names. A library takes the URL apart; of what it accepts, only the
schemes of JSON-RPC will do.
-/

namespace ProverInput

/-- Scheme, host and port. A part that the URL does not have is empty. -/
structure Endpoint where
  scheme : String
  host : String
  portText : String
  deriving DecidableEq, Repr

inductive EndpointError where
  | refused (reason : String)
  | unsupportedScheme (scheme : String)
  | missingHost
  deriving DecidableEq, Repr

def EndpointError.reason : EndpointError → String
  | .refused reason => reason
  | .unsupportedScheme scheme => "unsupported scheme '" ++ scheme ++ "'"
  | .missingHost => "missing host"

namespace Endpoint

def supportedSchemes : List String := ["http", "https", "ws", "wss"]

def ofParts (parts : UrlParts) : Endpoint :=
  ⟨parts.scheme.getD "", parts.host.getD "", parts.port.getD ""⟩

/-- The endpoint that a URL names. The library is shown the text before the first NUL. -/
def parse (url : String) (urls : UrlLibrary := .plain) : Except EndpointError Endpoint :=
  match urls.read (Text.beforeNul url) with
  | .error reason => .error (.refused reason)
  | .ok parts =>
    let endpoint := ofParts parts
    if endpoint.scheme ∉ supportedSchemes then .error (.unsupportedScheme endpoint.scheme)
    else if endpoint.host = "" then .error .missingHost
    else .ok endpoint

end Endpoint

end ProverInput
