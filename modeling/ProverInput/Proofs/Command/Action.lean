import ProverInput.Command.Pipeline

/-!
Actions as functions of a run: what each of them returns, and the run it leaves.
-/

namespace ProverInput

variable {World ε δ α β : Type}

namespace Run

def called (run : Run World) (procedure : Procedure World α) : Except Fault α × Run World :=
  let ((result, world), session) := run.session.perform (procedure run.world)
  (result, { run with world, session })

def enter (run : Run World) (phase : Phase) : Run World :=
  { run with phase }

def report (run : Run World) (severity : Log.Severity) (name : String)
    (fields : List (String × String)) : Run World :=
  { run with session := run.session.report .command ⟨severity, name, fields⟩ }

theorem context_of_called {run after : Run World} {procedure : Procedure World α}
    {result : Except Fault α} (ended : run.called procedure = (result, after)) :
    after.context = run.context := by
  have same : (run.called procedure).2.context = run.context := rfl
  rwa [ended] at same

end Run

theorem Procedure.perform_bind (session : Session) (first : Procedure World α)
    (next : α → Procedure World β) (world : World) :
    session.perform ((first >>= next) world)
      = match session.perform (first world) with
        | ((.ok value, after), later) => later.perform (next value after)
        | ((.error fault, after), later) => ((.error fault, after), later) := by
  have split : (first >>= next) world
      = first world >>= fun ended => ExceptT.bindCont next ended.1 ended.2 := rfl
  rw [split, Session.perform_bind]
  rcases session.perform (first world) with ⟨⟨fault | value, after⟩, later⟩
  · rfl
  · rfl

namespace Run

theorem called_bind (run : Run World) (first : Procedure World α)
    (next : α → Procedure World β) :
    run.called (first >>= next) = match run.called first with
      | (.ok value, after) => after.called (next value)
      | (.error fault, after) => (.error fault, after) := by
  simp only [called, Procedure.perform_bind]
  rcases run.session.perform (first run.world) with ⟨⟨fault | value, after⟩, later⟩
  · rfl
  · rfl

theorem called_checkpoint (run : Run World) (token : Token) :
    run.called (Procedure.checkpoint token) =
      (if run.session.isCancelled token then .error .cancelled else .ok (), run) := rfl

def calledInTurn (run : Run World) : List (Procedure World Unit) → Except Fault Unit × Run World
  | [] => (.ok (), run)
  | procedure :: rest =>
    match run.called procedure with
    | (.ok (), after) => after.calledInTurn rest
    | (.error fault, after) => (.error fault, after)

theorem calledInTurn_singleton (run : Run World) (procedure : Procedure World Unit) :
    run.calledInTurn [procedure] = run.called procedure := by
  rw [calledInTurn]
  rcases run.called procedure with ⟨fault | done, after⟩
  · rfl
  · rfl

theorem called_forM (run : Run World) (step : α → Procedure World Unit) (items : List α) :
    run.called (items.forM step) = run.calledInTurn (items.map step) := by
  induction items generalizing run with
  | nil => rfl
  | cons item rest ih =>
      have steps : (item :: rest).forM step = step item >>= fun _ => rest.forM step := rfl
      rw [steps, called_bind, List.map_cons, calledInTurn]
      rcases run.called (step item) with ⟨fault | done, after⟩
      · rfl
      · exact ih after

end Run

namespace Action

@[simp] theorem pure_apply (value : α) (run : Run World) :
    (pure value : Action World ε α) run = (.ok value, run) := rfl

@[simp] theorem throw_apply (error : ε) (run : Run World) :
    (throw error : Action World ε α) run = (.error error, run) := rfl

@[simp] theorem get_apply (run : Run World) :
    (get : Action World ε (Run World)) run = (.ok run, run) := rfl

@[simp] theorem modify_apply (change : Run World → Run World) (run : Run World) :
    (modify change : Action World ε PUnit) run = (.ok (), change run) := rfl

@[simp] theorem bind_apply (first : Action World ε α) (next : α → Action World ε β)
    (run : Run World) :
    (first >>= next) run = match first run with
      | (.ok value, after) => next value after
      | (.error error, after) => (.error error, after) := by
  change ExceptT.bindCont next (first run).1 (first run).2 = _
  rcases first run with ⟨result | result, after⟩
  · rfl
  · rfl

@[simp] theorem attempt_apply (action : Action World δ α) (run : Run World) :
    (attempt action : Action World ε (Except δ α)) run = (.ok (action run).1, (action run).2) :=
  rfl

@[simp] theorem enter_apply (phase : Phase) (run : Run World) :
    (enter phase : Action World ε Unit) run = (.ok (), run.enter phase) := rfl

@[simp] theorem report_apply (severity : Log.Severity) (name : String)
    (fields : List (String × String)) (run : Run World) :
    (report severity name fields : Action World ε Unit) run =
      (.ok (), run.report severity name fields) := rfl

@[simp] theorem call_apply (procedure : Procedure World α) (run : Run World) :
    (call procedure : Action World ε (Except Fault α)) run =
      (.ok (run.called procedure).1, (run.called procedure).2) := rfl

@[simp] theorem require_apply (procedure : Procedure World α) (failure : Fault → Failure)
    (run : Run World) :
    require procedure failure run = match run.called procedure with
      | (.ok value, after) => (.ok value, after)
      | (.error fault, after) => (.error (failure fault), after) := by
  unfold require
  rw [bind_apply, call_apply]
  rcases run.called procedure with ⟨result | result, after⟩
  · rfl
  · rfl

@[simp] theorem outcome_apply (action : Action World Problem α) (run : Run World) :
    outcome action run = match action run with
      | (.ok value, after) => (.ok (.ok value), after)
      | (.error (.failure cause), after) => (.ok (.error cause), after)
      | (.error (.misuse cause), after) => (.error (.misuse cause), after) := by
  unfold outcome
  rw [bind_apply, attempt_apply]
  rcases action run with ⟨(cause | cause) | result, after⟩
  · rfl
  · rfl
  · rfl

end Action

end ProverInput
