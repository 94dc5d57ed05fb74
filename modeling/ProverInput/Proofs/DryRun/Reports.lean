import ProverInput.Proofs.Command.Action
import ProverInput.Proofs.Log.Offers
import ProverInput.Service.DryRun

/-!
Which events a backend can put into the log at all. Work is data, so the events that it may report
are read off it before anything runs, whatever the answers to its questions will be.
-/

namespace ProverInput

variable {World α β : Type} {allowed : Log.Event → Prop}

namespace Work

/-- However its questions are answered, the work reports such events only. -/
def Reports (allowed : Log.Event → Prop) : Work α → Prop
  | .done _ => True
  | .report event rest => allowed event ∧ rest.Reports allowed
  | .poll _ rest => ∀ answer, (rest answer).Reports allowed

theorem Reports.bind {work : Work α} {next : α → Work β} (reports : work.Reports allowed)
    (later : ∀ result, (next result).Reports allowed) : (work.bind next).Reports allowed := by
  induction work with
  | done result => exact later result
  | report event rest ih => exact ⟨reports.1, ih reports.2⟩
  | poll token rest ih => exact fun answer => ih answer (reports answer)

theorem Reports.mono {wider : Log.Event → Prop} {work : Work α} (reports : work.Reports allowed)
    (wide : ∀ event, allowed event → wider event) : work.Reports wider := by
  induction work with
  | done result => exact trivial
  | report event rest ih => exact ⟨wide event reports.1, ih reports.2⟩
  | poll token rest ih => exact fun answer => ih answer (reports answer)

end Work

theorem Session.perform_reports {work : Work α} (reports : work.Reports allowed)
    (session : Session) :
    ∃ offers, (∀ offer ∈ offers, allowed offer.event) ∧
      (session.perform work).2 = session.offer offers := by
  induction work generalizing session with
  | done result => exact ⟨[], by simp, rfl⟩
  | report event rest ih =>
      obtain ⟨offers, kept, same⟩ := ih reports.2 (session.report .service event)
      refine ⟨⟨.service, event⟩ :: offers, ?_, same⟩
      intro offer member
      rcases List.mem_cons.mp member with rfl | later
      · exact reports.1
      · exact kept offer later
  | poll token rest ih => exact ih _ (reports _) session

namespace Procedure

def Reports (allowed : Log.Event → Prop) (procedure : Procedure World α) : Prop :=
  ∀ world, Work.Reports allowed (procedure world)

theorem Reports.bind {first : Procedure World α} {next : α → Procedure World β}
    (reports : Reports allowed first) (later : ∀ value, Reports allowed (next value)) :
    Reports allowed (first >>= next) := by
  intro world
  refine (reports world).bind ?_
  rintro ⟨fault | value, after⟩
  · exact trivial
  · exact later value after

theorem Reports.mono {wider : Log.Event → Prop} {procedure : Procedure World α}
    (reports : Reports allowed procedure) (wide : ∀ event, allowed event → wider event) :
    Reports wider procedure :=
  fun world => (reports world).mono wide

theorem reports_pure (value : α) : Reports allowed (pure value : Procedure World α) :=
  fun _ => trivial

theorem reports_throw (fault : Fault) : Reports allowed (throw fault : Procedure World α) :=
  fun _ => trivial

theorem reports_get : Reports allowed (get : Procedure World World) :=
  fun _ => trivial

theorem reports_set (world : World) : Reports allowed (set world : Procedure World PUnit) :=
  fun _ => trivial

theorem reports_checkpoint (token : Token) :
    Reports allowed (checkpoint token : Procedure World Unit) :=
  fun _ _ => trivial

theorem reports_report {severity : Log.Severity} {name : String} {fields : List (String × String)}
    (kept : allowed ⟨severity, name, fields⟩) :
    Reports allowed (report severity name fields : Procedure World Unit) :=
  fun _ => ⟨kept, trivial⟩

theorem reports_forM {step : α → Procedure World Unit}
    (reports : ∀ item, Reports allowed (step item)) (items : List α) :
    Reports allowed (items.forM step) := by
  induction items with
  | nil => exact reports_pure ()
  | cons item rest ih => exact (reports item).bind fun _ => ih

end Procedure

structure Backend.Reports (allowed : Log.Event → Prop) (backend : Backend World) : Prop where
  create : ∀ configuration, Procedure.Reports allowed (backend.create configuration)
  start : ∀ invocation, Procedure.Reports allowed (backend.start invocation)
  perform : ∀ operation invocation block,
    Procedure.Reports allowed (backend.perform operation invocation block)
  stop : ∀ invocation, Procedure.Reports allowed (backend.stop invocation)

theorem Backend.Reports.mono {wider : Log.Event → Prop} {backend : Backend World}
    (reports : backend.Reports allowed) (wide : ∀ event, allowed event → wider event) :
    backend.Reports wider where
  create := fun configuration => (reports.create configuration).mono wide
  start := fun invocation => (reports.start invocation).mono wide
  perform := fun operation invocation block =>
    (reports.perform operation invocation block).mono wide
  stop := fun invocation => (reports.stop invocation).mono wide

namespace DryRun

open Procedure

def eventNames : List String :=
  ["dry_run.started", "dry_run.stopped", "stage.dispatched"]

theorem reports_create (urls : UrlLibrary) (configuration : Configuration) :
    Reports (·.name ∈ eventNames) (create urls configuration) := by
  unfold create
  cases ofConfiguration urls configuration with
  | error fault => exact reports_throw fault
  | ok service => exact (reports_set service).bind fun _ => reports_pure true

theorem reports_start (invocation : Invocation) :
    Reports (·.name ∈ eventNames) (start invocation) := by
  refine reports_get.bind fun service => ?_
  cases service.running with
  | true => exact reports_pure ()
  | false =>
      refine (reports_checkpoint _).bind fun _ => (reports_set _).bind fun _ => ?_
      exact reports_report (by simp [eventNames])

theorem reports_stop (invocation : Invocation) :
    Reports (·.name ∈ eventNames) (stop invocation) := by
  refine reports_get.bind fun service => ?_
  cases service.running with
  | true => exact (reports_set _).bind fun _ => reports_report (by simp [eventNames])
  | false => exact reports_throw _

theorem reports_runStage (invocation : Invocation) (block : BlockRef) (stage : Operation) :
    Reports (·.name ∈ eventNames) (runStage invocation block stage) := by
  refine (reports_checkpoint _).bind fun _ => reports_get.bind fun service => ?_
  exact reports_report (by simp [eventNames])

theorem reports_perform (operation : Operation) (invocation : Invocation) (block : BlockRef) :
    Reports (·.name ∈ eventNames) (perform operation invocation block) := by
  refine reports_get.bind fun service => ?_
  cases service.obstacle? operation with
  | some fault => exact reports_throw fault
  | none => exact reports_forM (reports_runStage invocation block) operation.stages

theorem backend_reports (urls : UrlLibrary) : (backend urls).Reports (·.name ∈ eventNames) where
  create := reports_create urls
  start := reports_start
  perform := reports_perform
  stop := reports_stop

end DryRun

end ProverInput
