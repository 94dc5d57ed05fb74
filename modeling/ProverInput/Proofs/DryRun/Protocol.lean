import ProverInput.Proofs.DryRun.Procedures

/-!
The protocol of a service: what it answers to demands in any order, and how its log tells when it
runs. One relation says all that a demand can do; a monitor that follows the log has the same state
as the service after every demand, and hence after any sequence of them.
-/

namespace ProverInput.DryRun

inductive Demand where
  | start
  | stop
  | perform (operation : Operation) (block : BlockRef)
  deriving DecidableEq, Repr

def Demand.procedure (invocation : Invocation) : Demand → Procedure DryRun Unit
  | .start => DryRun.start invocation
  | .stop => DryRun.stop invocation
  | .perform operation block => DryRun.perform operation invocation block

/-- What happens in the life of a service. Tokens are cancelled from outside, at once or right after
a record that is still to come. -/
inductive Happening where
  | demand (invocation : Invocation) (demand : Demand)
  | cancel (token : Token)
  | interrupt (interruption : Interruption)
  deriving DecidableEq, Repr

def happen (run : Run DryRun) : Happening → Run DryRun
  | .demand invocation demand => (run.called (demand.procedure invocation)).2
  | .cancel token => { run with session := run.session.cancel token }
  | .interrupt interruption =>
    { run with session := { run.session with interruption := some interruption } }

def life (happenings : List Happening) (start : Run DryRun) : Run DryRun :=
  happenings.foldl happen start

/-- All that a demand can do: what it returns, the service it leaves and the events it offers. -/
inductive Answered (run : Run DryRun) (invocation : Invocation) :
    Demand → Except Fault Unit → DryRun → List Offer → Prop
  | again : run.world.running = true →
      Answered run invocation .start (.ok ()) run.world []
  | started : run.world.running = false →
      run.session.isCancelled invocation.token = false →
      Answered run invocation .start (.ok ()) run.world.started
        [startedOffer run.world invocation]
  | startCancelled : run.world.running = false →
      run.session.isCancelled invocation.token = true →
      Answered run invocation .start (.error .cancelled) run.world []
  | stopped : run.world.running = true →
      Answered run invocation .stop (.ok ()) { run.world with running := false }
        [stoppedOffer invocation]
  | notRunning : run.world.running = false →
      Answered run invocation .stop (.error .notRunning) run.world []
  | refused {operation : Operation} {block : BlockRef} {fault : Fault} :
      run.world.obstacle? operation = some fault →
      Answered run invocation (.perform operation block) (.error fault) run.world []
  | performed {operation : Operation} {block : BlockRef} {count : Nat} :
      run.world.running = true → count ≤ operation.stages.length →
      Answered run invocation (.perform operation block)
        (if count = operation.stages.length then .ok () else .error .cancelled) run.world
        ((operation.stages.take count).map (stageOffer run.world.configuration block))

variable {run : Run DryRun} {invocation : Invocation}

theorem called_start_of_running (running : run.world.running = true) :
    run.called (start invocation) = (.ok (), run) := by
  rcases run with ⟨phase, context, ⟨configuration, endpoint, stillRunning⟩, session⟩
  obtain rfl : stillRunning = true := running
  rfl

theorem called_stop_of_stopped (stopped : run.world.running = false) :
    run.called (stop invocation) = (.error .notRunning, run) := by
  rcases run with ⟨phase, context, ⟨configuration, endpoint, running⟩, session⟩
  obtain rfl : running = false := stopped
  rfl

theorem running_of_clear {service : DryRun} {operation : Operation}
    (clear : service.obstacle? operation = none) : service.running = true := by
  cases running : service.running with
  | true => rfl
  | false => simp [obstacle?, running] at clear

theorem exists_answered (run : Run DryRun) (invocation : Invocation) (demand : Demand) :
    ∃ result service offers, Answered run invocation demand result service offers ∧
      run.called (demand.procedure invocation) =
        (result, { run with world := service, session := run.session.offer offers }) := by
  cases demand with
  | start =>
      cases running : run.world.running with
      | true => exact ⟨_, _, _, .again running, called_start_of_running running⟩
      | false =>
          have called := called_start running invocation
          cases cancelled : run.session.isCancelled invocation.token with
          | true =>
              rw [if_pos cancelled] at called
              exact ⟨_, _, _, .startCancelled running cancelled, called⟩
          | false =>
              rw [if_neg (by simp [cancelled])] at called
              exact ⟨_, _, _, .started running cancelled, called⟩
  | stop =>
      cases running : run.world.running with
      | true => exact ⟨_, _, _, .stopped running, called_stop running invocation⟩
      | false => exact ⟨_, _, _, .notRunning running, called_stop_of_stopped running⟩
  | perform operation block =>
      cases obstacle : run.world.obstacle? operation with
      | some fault =>
          exact ⟨_, _, _, .refused obstacle, called_perform_of_obstacle block obstacle⟩
      | none =>
          obtain ⟨count, bounded, called, _, _⟩ := called_perform invocation block obstacle
          exact ⟨_, _, _, .performed (running_of_clear obstacle) bounded, called⟩

/-- The rules by which a service answers a demand. -/
structure Lawful (run : Run DryRun) (invocation : Invocation) (demand : Demand)
    (result : Except Fault Unit) (after : Run DryRun) : Prop where
  start : demand = .start →
    (result = .ok () ↔
      run.world.running = true ∨ run.session.isCancelled invocation.token = false) ∧
    (result = .ok () → after.world.running = true)
  again : demand = .start → run.world.running = true → after = run
  stop : demand = .stop →
    (result = .ok () ↔ run.world.running = true) ∧
    (result = .ok () → after.world.running = false)
  stage : ∀ operation block, demand = .perform operation block →
    after.world.running = run.world.running
  refused : ∀ fault, result = .error fault → after.world.running = run.world.running ∧
    ((∀ block, demand ≠ .perform .generate block) → after = run) ∧
    ∀ block, demand = .perform .generate block → ∃ count < 3, after.session.entries =
      run.session.entries ++ (([.preflight, .prepare, .execute].take count).map
        (stageOffer run.world.configuration block)).map run.session.entryOf

theorem stages_length_of_ne_generate {operation : Operation} (other : operation ≠ .generate) :
    operation.stages.length = 1 := by
  cases operation with
  | generate => contradiction
  | _ => rfl

theorem Answered.lawful {demand : Demand} {result : Except Fault Unit} {service : DryRun}
    {offers : List Offer} (answered : Answered run invocation demand result service offers) :
    Lawful run invocation demand result
      { run with world := service, session := run.session.offer offers } := by
  cases answered with
  | again running =>
      exact { start := fun _ => ⟨by simp [running], fun _ => running⟩, again := fun _ _ => rfl,
              stop := nofun, stage := nofun, refused := nofun }
  | started idle unheard =>
      exact { start := fun _ => ⟨by simp [unheard], fun _ => rfl⟩
              again := fun _ running => by simp [idle] at running
              stop := nofun, stage := nofun, refused := nofun }
  | startCancelled idle heard =>
      exact { start := fun _ => ⟨by simp [idle, heard], nofun⟩, again := fun _ _ => rfl
              stop := nofun, stage := nofun, refused := fun _ _ => ⟨rfl, fun _ => rfl, nofun⟩ }
  | stopped running =>
      exact { start := nofun, again := nofun, stop := fun _ => ⟨by simp [running], fun _ => rfl⟩
              stage := nofun, refused := nofun }
  | notRunning idle =>
      exact { start := nofun, again := nofun, stop := fun _ => ⟨by simp [idle], nofun⟩
              stage := nofun, refused := fun _ _ => ⟨rfl, fun _ => rfl, nofun⟩ }
  | refused obstacle =>
      exact { start := nofun, again := nofun, stop := nofun, stage := fun _ _ _ => rfl
              refused := fun _ _ => ⟨rfl, fun _ => rfl, fun _ _ => ⟨0, by decide, by simp⟩⟩ }
  | @performed operation block count running bounded =>
      refine { start := nofun, again := nofun, stop := nofun, stage := fun _ _ _ => rfl
               refused := ?_ }
      intro fault failed
      have unfinished : count ≠ operation.stages.length := by
        rintro rfl
        rw [if_pos rfl] at failed
        contradiction
      refine ⟨rfl, ?_, ?_⟩
      · intro other
        have notGenerate : operation ≠ .generate := fun same => other block (by rw [same])
        have single := stages_length_of_ne_generate notGenerate
        obtain rfl : count = 0 := by omega
        rfl
      · rintro _ ⟨⟩
        have short : count < 3 := Nat.lt_of_le_of_ne bounded unfinished
        exact ⟨count, short, Session.offer_entries _ _⟩

/-- The state of the service after an event, as the event tells it; nothing for an event that is out
of place. Other events tell nothing. -/
def turn (running : Bool) (name : String) : Option Bool :=
  if name = "dry_run.started" then if running then none else some true
  else if name = "dry_run.stopped" then if running then some false else none
  else if name = "stage.dispatched" then if running then some true else none
  else some running

def follow (running : Bool) (names : List String) : Option Bool :=
  names.foldlM turn running

theorem follow_append (running : Bool) (first second : List String) :
    follow running (first ++ second) =
      (follow running first).bind fun reached => follow reached second :=
  List.foldlM_append ..

theorem follow_dispatches (configuration : Configuration) (block : BlockRef)
    (stages : List Operation) :
    follow true ((stages.map (stageOffer configuration block)).map (·.event.name)) = some true := by
  induction stages with
  | nil => rfl
  | cons stage rest ih => exact ih

theorem Answered.follow {demand : Demand} {result : Except Fault Unit} {service : DryRun}
    {offers : List Offer} (answered : Answered run invocation demand result service offers) :
    follow run.world.running (offers.map (·.event.name)) = some service.running := by
  cases answered with
  | again running => rfl
  | started idle unheard => rw [idle]; rfl
  | startCancelled idle heard => rfl
  | stopped running => rw [running]; rfl
  | notRunning idle => rfl
  | refused obstacle => rfl
  | performed running bounded =>
      rw [running]
      exact follow_dispatches _ _ _

def Monitored (start finish : Run DryRun) (offers : List Offer) : Prop :=
  finish.session.entryOf = start.session.entryOf ∧
    finish.session.entries = start.session.entries ++ offers.map start.session.entryOf ∧
    follow start.world.running (offers.map (·.event.name)) = some finish.world.running

theorem happen_monitored (start : Run DryRun) (happening : Happening) :
    ∃ offers, Monitored start (happen start happening) offers := by
  cases happening with
  | demand invocation demand =>
      obtain ⟨result, service, offers, answered, called⟩ :=
        exists_answered start invocation demand
      have after : happen start (.demand invocation demand) =
          { start with world := service, session := start.session.offer offers } := by
        rw [happen, called]
      rw [after]
      exact ⟨offers, Session.offer_entryOf _ _, Session.offer_entries _ _, answered.follow⟩
  | cancel token => exact ⟨[], rfl, by simp [happen, Session.cancel], rfl⟩
  | interrupt interruption => exact ⟨[], rfl, by simp [happen], rfl⟩

theorem life_monitored (happenings : List Happening) (start : Run DryRun) :
    ∃ offers, Monitored start (life happenings start) offers := by
  induction happenings generalizing start with
  | nil => exact ⟨[], rfl, by simp [life], rfl⟩
  | cons happening rest ih =>
      obtain ⟨first, sameForm, entries, followed⟩ := happen_monitored start happening
      obtain ⟨later, sameLater, more, followedOn⟩ := ih (happen start happening)
      -- What follows is entered in the same form, so the parts of the log are one list of events.
      refine ⟨first ++ later, sameLater.trans sameForm, ?_, ?_⟩
      · exact more.trans (by rw [entries, sameForm, List.map_append, List.append_assoc])
      · rw [List.map_append, follow_append, followed, Option.bind_some]
        exact followedOn

def switches (names : List String) : List String :=
  names.filter fun name => name = "dry_run.started" || name = "dry_run.stopped"

def switchOf (running : Bool) : String :=
  if running then "dry_run.stopped" else "dry_run.started"

inductive Alternates : Bool → List String → Bool → Prop
  | none {running : Bool} : Alternates running [] running
  | next {running after : Bool} {rest : List String} : Alternates (!running) rest after →
      Alternates running (switchOf running :: rest) after

theorem turn_cases {running after : Bool} {name : String} (taken : turn running name = some after) :
    (switches [name] = [switchOf running] ∧ after = !running) ∨
      (switches [name] = [] ∧ after = running) := by
  unfold turn at taken
  split at taken
  · rename_i begins
    cases running with
    | true => contradiction
    | false => exact Or.inl ⟨by rw [begins]; rfl, (Option.some.inj taken).symm⟩
  · rename_i notBegins
    split at taken
    · rename_i ends
      cases running with
      | true => exact Or.inl ⟨by rw [ends]; rfl, (Option.some.inj taken).symm⟩
      | false => contradiction
    · rename_i notEnds
      have quiet : switches [name] = [] := by simp [switches, notBegins, notEnds]
      split at taken
      · cases running with
        | true => exact Or.inr ⟨quiet, (Option.some.inj taken).symm⟩
        | false => contradiction
      · exact Or.inr ⟨quiet, (Option.some.inj taken).symm⟩

theorem alternates_of_follow {running after : Bool} {names : List String}
    (followed : follow running names = some after) : Alternates running (switches names) after := by
  induction names generalizing running with
  | nil =>
      obtain rfl := Option.some.inj followed
      exact .none
  | cons name rest ih =>
      rw [← List.singleton_append, follow_append, Option.bind_eq_some_iff] at followed
      obtain ⟨reached, taken, followedOn⟩ := followed
      have later := ih followedOn
      have split : switches (name :: rest) = switches [name] ++ switches rest :=
        List.filter_append [name] rest
      rw [split]
      rcases turn_cases (by simpa [follow] using taken) with ⟨switched, rfl⟩ | ⟨quiet, rfl⟩
      · rw [switched]
        exact .next later
      · rw [quiet]
        exact later

theorem Alternates.getElem?_eq {running after : Bool} {names : List String}
    (turns : Alternates running names after) {i : Nat} {name : String}
    (found : names[i]? = some name) :
    name = switchOf (if i % 2 = 0 then running else !running) := by
  induction turns generalizing i with
  | none => contradiction
  | @next running after rest later ih =>
      cases i with
      | zero => exact (Option.some.inj found).symm
      | succ i =>
          rw [ih found, Bool.not_not]
          by_cases even : i % 2 = 0
          · rw [if_pos even, if_neg (by omega)]
          · rw [if_neg even, if_pos (by omega)]

theorem Alternates.getLast?_eq {running after : Bool} {names : List String}
    (turns : Alternates running names after) :
    (names = [] ∧ after = running) ∨ names.getLast? = some (switchOf (!after)) := by
  induction turns with
  | none => exact Or.inl ⟨rfl, rfl⟩
  | next later ih =>
      right
      rcases ih with ⟨rfl, rfl⟩ | last
      · rw [Bool.not_not]
        rfl
      · rw [List.getLast?_cons, last]
        rfl

structure Orderly (running : Bool) (names : List String) : Prop where
  alternate : ∀ i name, (switches names)[i]? = some name →
    name = if i % 2 = 0 then "dry_run.started" else "dry_run.stopped"
  enclosed : ∀ before later, names = before ++ "stage.dispatched" :: later →
    (switches before).getLast? = some "dry_run.started" ∧
      ∀ name ∈ (switches later).head?, name = "dry_run.stopped"
  last : running = true ↔ (switches names).getLast? = some "dry_run.started"

theorem running_iff_of_follow {running : Bool} {names : List String}
    (followed : follow false names = some running) :
    running = true ↔ (switches names).getLast? = some "dry_run.started" := by
  rcases (alternates_of_follow followed).getLast?_eq with ⟨none, rfl⟩ | last
  · simp [none]
  · rw [last]
    cases running <;> decide

theorem orderly_of_follow {running : Bool} {names : List String}
    (followed : follow false names = some running) : Orderly running names := by
  constructor
  case alternate =>
    intro i name found
    rw [(alternates_of_follow followed).getElem?_eq found]
    split
    · rfl
    · rfl
  case enclosed =>
    rintro before later rfl
    rw [follow_append, Option.bind_eq_some_iff] at followed
    obtain ⟨reached, followedUp, followedOn⟩ := followed
    -- The monitor lets a dispatch pass only while the service runs.
    cases reached with
    | false => contradiction
    | true =>
        have turns : Alternates true (switches later) running := alternates_of_follow followedOn
        refine ⟨(running_iff_of_follow followedUp).mp rfl, ?_⟩
        intro name first
        rw [List.head?_eq_getElem?] at first
        exact turns.getElem?_eq first
  case last => exact running_iff_of_follow followed

/-- A service keeps its protocol in every life: it answers each demand by the rules, whatever has
happened before, and its log tells of starts and stops in turn, of stages only in between, and of
whether it runs. A threshold at debug lets every event through. -/
theorem life_keeps_protocol {urls : UrlLibrary} {configuration : Configuration} (start : Run DryRun)
    (constructed : ofConfiguration urls configuration = .ok start.world)
    (happenings : List Happening) :
    (∀ invocation demand, Lawful (life happenings start) invocation demand
      ((life happenings start).called (demand.procedure invocation)).1
      ((life happenings start).called (demand.procedure invocation)).2) ∧
    ∃ log, (life happenings start).session.entries = start.session.entries ++ log ∧
      (start.session.threshold = .debug →
        ∀ entry ∈ log, entry.written = some start.session.format) ∧
      Orderly (life happenings start).world.running (log.map (·.event.name)) := by
  constructor
  · intro invocation demand
    obtain ⟨result, service, offers, answered, called⟩ :=
      exists_answered (life happenings start) invocation demand
    rw [called]
    exact answered.lawful
  · obtain ⟨offers, _, entries, followed⟩ := life_monitored happenings start
    refine ⟨_, entries, ?_, ?_⟩
    · intro debug entry member
      obtain ⟨offer, _, rfl⟩ := List.mem_map.mp member
      have reached : offer.event.severity.reaches start.session.threshold = true := by
        rw [debug]
        cases offer.event.severity <;> rfl
      simp [Session.entryOf, reached]
    · rw [(of_ofConfiguration constructed).2.1] at followed
      rw [List.map_map]
      exact orderly_of_follow followed

theorem life_keeps_protocol_restarted :
    let configuration : Configuration := { chain.id := some 5 }
    let start : Run DryRun := { world := { configuration }, session := { threshold := .debug } }
    let caller : Invocation := ⟨"test", ⟨0⟩⟩
    let other : Invocation := ⟨"test", ⟨1⟩⟩
    let happenings : List Happening := [.demand caller .start, .demand other .start,
      .demand caller (.perform .execute default), .demand caller (.perform .generate default),
      .cancel ⟨0⟩, .demand caller .stop, .demand caller .stop, .demand caller .start,
      .demand other .start]
    let finish := life happenings start
    ofConfiguration .plain configuration = .ok start.world ∧
      finish.session.entries.map (·.event.name) =
        ["dry_run.started", "stage.dispatched", "dry_run.stopped", "dry_run.started"] ∧
      Lawful finish caller .start (finish.called (Demand.start.procedure caller)).1
        (finish.called (Demand.start.procedure caller)).2 := by
  intro configuration start caller other happenings finish
  refine ⟨rfl, by decide +kernel, ?_⟩
  exact (@life_keeps_protocol .plain configuration start rfl happenings).1 caller .start

end ProverInput.DryRun
