import ProverInput.Log.Session

/-!
What the work of a service may do besides computing: offer events to the log, and ask whether a
token is cancelled. Work is data, so a session can carry it out step by step and nothing else of the
session is within its reach.
-/

namespace ProverInput

inductive Work (α : Type) where
  | done (result : α)
  | report (event : Log.Event) (rest : Work α)
  | poll (token : Token) (rest : Bool → Work α)

namespace Work

variable {α β : Type}

def bind (work : Work α) (next : α → Work β) : Work β :=
  match work with
  | .done result => next result
  | .report event rest => .report event (rest.bind next)
  | .poll token rest => .poll token fun answer => (rest answer).bind next

instance : Monad Work where
  pure := .done
  bind := .bind

theorem bind_assoc {γ : Type} (work : Work α) (first : α → Work β) (second : β → Work γ) :
    (work.bind first).bind second = work.bind fun result => (first result).bind second := by
  induction work with
  | done result => rfl
  | report event rest ih => simp only [bind, ih]
  | poll token rest ih => simp only [bind, ih]

theorem bind_done (work : Work α) : work.bind .done = work := by
  induction work with
  | done result => rfl
  | report event rest ih => simp only [bind, ih]
  | poll token rest ih => simp only [bind, ih]

instance : LawfulMonad Work :=
  LawfulMonad.mk' Work (fun work => bind_done work) (fun _ _ => rfl)
    (fun work first second => bind_assoc work first second)

end Work

/-- Carries out work: events go to the log as the service's own, questions are answered from the
tokens cancelled so far. -/
def Session.perform {α : Type} (session : Session) : Work α → α × Session
  | .done result => (result, session)
  | .report event rest => (session.report .service event).perform rest
  | .poll token rest => session.perform (rest (session.isCancelled token))

theorem Session.perform_bind {α β : Type} (session : Session) (work : Work α)
    (next : α → Work β) :
    session.perform (work >>= next) =
      (session.perform work).2.perform (next (session.perform work).1) := by
  induction work generalizing session with
  | done result => rfl
  | report event rest ih => exact ih (session.report .service event)
  | poll token rest ih => exact ih (session.isCancelled token) session

end ProverInput
