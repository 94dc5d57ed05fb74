import ProverInput.Proofs.DryRun.Course

/-!
The stages that a log shows as dispatched. Of all events of an invocation that runs dry only those
of the stages count here, so the log of a course shows how many stages were reached.
-/

namespace ProverInput

namespace Log

def dispatches (log : List Entry) : List Entry :=
  log.filter fun entry => entry.event.name = "stage.dispatched"

theorem dispatches_append (first second : List Entry) :
    dispatches (first ++ second) = dispatches first ++ dispatches second :=
  List.filter_append ..

end Log

namespace DryRun

open Log

theorem dispatches_of_quiet {offers : List Offer} (quiet : Quiet offers) (session : Session) :
    dispatches (offers.map session.entryOf) = [] :=
  session.filter_named_eq_nil quiet

theorem dispatches_of_stages (configuration : Configuration) (block : BlockRef)
    (stages : List Operation) (session : Session) :
    dispatches ((stages.map (stageOffer configuration block)).map session.entryOf) =
      (stages.map (stageOffer configuration block)).map session.entryOf := by
  rw [dispatches, List.filter_eq_self]
  intro entry member
  obtain ⟨offer, offered, rfl⟩ := List.mem_map.mp member
  obtain ⟨stage, _, rfl⟩ := List.mem_map.mp offered
  simp [Session.entryOf, stageOffer]

theorem Quiet.mono {early offers : List Offer} (quiet : Quiet offers)
    (cut : early <+: offers) : Quiet early := by
  intro offer member
  exact quiet offer (cut.subset member)

theorem quiet_createdOffers (command blockText : String) :
    Quiet (createdOffers command blockText) := by
  simp [Quiet, createdOffers]

theorem quiet_readyOffers (command blockText : String) (service : DryRun)
    (invocation : Invocation) (operation : Operation) (block : BlockRef) :
    Quiet (readyOffers command blockText service invocation operation block) := by
  simp [Quiet, readyOffers, resolvedOffers, startedOffers, createdOffers, startedOffer]

theorem quiet_resolvedOffers (command blockText : String) (service : DryRun)
    (invocation : Invocation) (block : BlockRef) :
    Quiet (resolvedOffers command blockText service invocation block) :=
  (quiet_readyOffers command blockText service invocation .generate block).mono
    (List.prefix_append ..)

theorem quiet_startedOffers (command blockText : String) (service : DryRun)
    (invocation : Invocation) : Quiet (startedOffers command blockText service invocation) :=
  (quiet_resolvedOffers command blockText service invocation default).mono
    (List.prefix_append ..)

theorem Logged.exists_log {start finish : Run DryRun} {configuration : Configuration}
    {offers : List Offer} (logged : Logged start finish configuration offers) :
    ∃ tail, Quiet tail ∧ finish.session.entries = start.session.entries ++
      (offers ++ tail).map (start.session.following configuration).entryOf := by
  obtain ⟨tail, quiet, reached⟩ := logged
  refine ⟨tail, quiet, ?_⟩
  rw [reached, Session.offer_entries]
  rfl

end DryRun

namespace Pipeline

open DryRun Log

theorem dispatches_upTo {pipeline : Pipeline DryRun} {blockText : String}
    {invocation : Invocation} {service : DryRun} {block : BlockRef} {tail : List Offer}
    (quiet : Quiet tail) (count : Nat) (session : Session) :
    dispatches ((pipeline.offersUpTo blockText invocation service block count ++ tail).map
      session.entryOf) =
        ((pipeline.operation.stages.take count).map
          (stageOffer service.configuration block)).map session.entryOf := by
  have before := dispatches_of_quiet (quiet_readyOffers pipeline.command.name blockText service
    invocation pipeline.operation block) session
  rw [offersUpTo, List.map_append, List.map_append, dispatches_append, dispatches_append, before,
    dispatches_of_quiet quiet, dispatches_of_stages, List.nil_append, List.append_nil]

end Pipeline

end ProverInput
