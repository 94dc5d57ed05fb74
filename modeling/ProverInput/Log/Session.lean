import ProverInput.Log.Event

/-!
The log of a session together with its cancellation tokens. Every event that is offered is kept,
with the format it was written in or without one if the threshold held it back. A token can be
cancelled directly, or by an interruption that arrives right after a given number of records.
-/

namespace ProverInput

structure Token where
  id : Nat
  deriving DecidableEq, Repr

/-- Cancels a token right after the record with the given number, counted from one. -/
structure Interruption where
  afterRecord : Nat
  token : Token
  deriving DecidableEq, Repr

namespace Log

inductive Origin where
  | command
  | service
  deriving DecidableEq, Repr

structure Entry where
  origin : Origin
  event : Event
  /-- The format of the record; nothing when the event was not written. -/
  written : Option Format
  deriving DecidableEq, Repr

def Entry.record? (stamp : String) (entry : Entry) : Option String :=
  entry.written.map fun format => entry.event.line format stamp

def records (stamp : String) (entries : List Entry) : List String :=
  entries.filterMap (Entry.record? stamp)

end Log

structure Session where
  threshold : Log.Severity := .info
  format : Log.Format := .text
  entries : List Log.Entry := []
  cancelled : List Token := []
  interruption : Option Interruption := none
  deriving DecidableEq, Repr

namespace Session

def cancel (session : Session) (token : Token) : Session :=
  { session with cancelled := token :: session.cancelled }

def isCancelled (session : Session) (token : Token) : Bool :=
  token ∈ session.cancelled

def recordCount (session : Session) : Nat :=
  session.entries.countP (·.written.isSome)

def interrupted (session : Session) : Session :=
  match session.interruption with
  | some interruption =>
    if interruption.afterRecord = session.recordCount then session.cancel interruption.token
    else session
  | none => session

/-- Offers an event to the log. It is written if its severity reaches the threshold. -/
def report (session : Session) (origin : Log.Origin) (event : Log.Event) : Session :=
  if event.severity.reaches session.threshold then
    let entry : Log.Entry := ⟨origin, event, some session.format⟩
    { session with entries := session.entries ++ [entry] }.interrupted
  else
    let entry : Log.Entry := ⟨origin, event, none⟩
    { session with entries := session.entries ++ [entry] }

/-- Takes over the log settings of a configuration. A name that means nothing gives the default. -/
def adopt (session : Session) (level format : String) : Session :=
  { session with
    threshold := (Log.Severity.ofName? level).getD .info
    format := (Log.Format.ofName? format).getD .text }

end Session

end ProverInput
