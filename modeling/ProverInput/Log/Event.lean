import ProverInput.Text.Escape
import ProverInput.Text.Reported

/-!
Structured log events and the two formats they are written in: one line of text for a reader, or
one JSON object a line for a collector.
-/

namespace ProverInput.Log

inductive Severity where
  | debug
  | info
  | warning
  | error
  deriving DecidableEq, Repr

namespace Severity

def rank : Severity → Nat
  | .debug => 0
  | .info => 1
  | .warning => 2
  | .error => 3

def reaches (severity threshold : Severity) : Bool :=
  threshold.rank ≤ severity.rank

def name : Severity → String
  | .debug => "debug"
  | .info => "info"
  | .warning => "warning"
  | .error => "error"

def label (severity : Severity) : String :=
  severity.name.map Char.toUpper

def ofName? (text : String) : Option Severity :=
  if text = "debug" then some .debug
  else if text = "info" then some .info
  else if text = "warn" ∨ text = "warning" then some .warning
  else if text = "error" then some .error
  else none

end Severity

inductive Format where
  | text
  | json
  deriving DecidableEq, Repr

namespace Format

def name : Format → String
  | .text => "text"
  | .json => "json"

def ofName? (text : String) : Option Format :=
  if text = "text" then some .text
  else if text = "json" then some .json
  else none

end Format

structure Event where
  severity : Severity
  name : String
  fields : List (String × String)
  deriving DecidableEq, Repr

namespace Event

/-- A value of a line of text stands in quotes when it is empty or could end the field early. -/
def mustQuote (value : String) : Bool :=
  value.toList.isEmpty || value.toList.any (· ∈ [' ', '\t', '\r', '\n', '"', '='])

def textField (field : String × String) : List Char :=
  let shown := if mustQuote field.2 then Text.quoted .upper field.2 else field.2.toList
  ' ' :: field.1.toList ++ '=' :: shown

def textLine (stamp : String) (event : Event) : List Char :=
  stamp.toList ++ ' ' :: (Text.padRight 7 event.severity.label).toList ++ ' ' :: event.name.toList
    ++ event.fields.flatMap textField ++ ['\n']

def jsonField (field : String × String) : List Char :=
  Text.quoted .upper field.1 ++ ':' :: Text.quoted .upper field.2

/-- The event as a JSON object. Fields keep their order; without fields there is no member for
them. -/
def jsonLine (stamp : String) (event : Event) : List Char :=
  let members := [jsonField ("ts", stamp), jsonField ("level", event.severity.name),
    jsonField ("event", event.name)]
  let fields := if event.fields = [] then [] else
    [Text.quoted .upper "fields" ++ ':' :: '\x7b' :: [','].intercalate (event.fields.map jsonField)
      ++ ['\x7d']]
  '\x7b' :: [','].intercalate (members ++ fields) ++ ['\x7d', '\n']

def line (format : Format) (stamp : String) (event : Event) : String :=
  match format with
  | .text => String.ofList (event.textLine stamp)
  | .json => String.ofList (event.jsonLine stamp)

end Event

end ProverInput.Log
