import ProverInput.Proofs.Command.Recording
import ProverInput.Service.Scripted

/-!
Histories of a pipeline: its entry points called in any order, with any arguments. An invariant ties
the phase to the calls made so far; from it follow the order of the calls and what happens to an
entry point that is called out of turn.
-/

namespace ProverInput

variable {World : Type}

inductive EntryPoint where
  | setup (layer : Layer) (blockText : String) (invocation : Invocation)
  | run (invocation : Invocation)
  | teardown (invocation : Invocation)
  | invoke (layer : Layer) (blockText : String) (invocation : Invocation)
  deriving DecidableEq, Repr

namespace EntryPoint

def Admissible : EntryPoint → Phase → Prop
  | .setup _ _ _, phase => phase = .idle
  | .run _, phase => phase = .ready
  | .teardown _, phase => phase = .ran ∨ phase = .runFailed
  | .invoke _ _ _, phase => phase = .idle

instance (point : EntryPoint) (phase : Phase) : Decidable (point.Admissible phase) :=
  match point with
  | .setup _ _ _ => inferInstanceAs (Decidable (phase = .idle))
  | .run _ => inferInstanceAs (Decidable (phase = .ready))
  | .teardown _ => inferInstanceAs (Decidable (phase = .ran ∨ phase = .runFailed))
  | .invoke _ _ _ => inferInstanceAs (Decidable (phase = .idle))

def misuse : EntryPoint → Misuse
  | .setup _ _ _ => .setupRepeated
  | .run _ => .runOutOfTurn
  | .teardown _ => .teardownOutOfTurn
  | .invoke _ _ _ => .setupRepeated

def setup? : EntryPoint → Option (Layer × String)
  | .setup layer blockText _ => some (layer, blockText)
  | .invoke layer blockText _ => some (layer, blockText)
  | _ => none

end EntryPoint

namespace Pipeline

def visit (pipeline : Pipeline World) : EntryPoint → Action World Problem Unit
  | .setup layer blockText invocation => pipeline.setup layer blockText invocation
  | .run invocation => pipeline.run invocation
  | .teardown invocation => pipeline.teardown invocation
  | .invoke layer blockText invocation => pipeline.invoke layer blockText invocation

def history (pipeline : Pipeline World) (points : List EntryPoint) (start : Run World) :
    Run World :=
  points.foldl (fun run point => (pipeline.visit point run).2) start

def fullCalls (operation : Operation) (caller : String) : Option (Layer × String) → List Call
  | none => []
  | some (layer, blockText) => match Configuration.load layer, BlockRef.parse blockText with
    | .error _, _ => []
    | .ok configuration, .error _ => [.create configuration, .start]
    | .ok configuration, .ok block =>
      [.create configuration, .start, .perform operation block caller, .stop]

/-- What the phase says about the setup so far, the block that is held and the calls made. -/
inductive Progress (operation : Operation) :
    Option (Layer × String) → Phase → Option BlockRef → List Call → Prop
  | idle {held} : Progress operation none .idle held []
  | setupFailed {arguments held calls} (caller : String) :
      calls <+: fullCalls operation caller (some arguments) →
      Progress operation (some arguments) .setupFailed held calls
  | ready {layer blockText configuration block} :
      Configuration.load layer = .ok configuration → BlockRef.parse blockText = .ok block →
      Progress operation (some (layer, blockText)) .ready (some block)
        [.create configuration, .start]
  | ran {layer blockText configuration block caller phase held} :
      Configuration.load layer = .ok configuration → BlockRef.parse blockText = .ok block →
      phase = .ran ∨ phase = .runFailed →
      Progress operation (some (layer, blockText)) phase held
        [.create configuration, .start, .perform operation block caller]
  | ended {layer blockText configuration block caller phase held} :
      Configuration.load layer = .ok configuration → BlockRef.parse blockText = .ok block →
      phase = .completed ∨ phase = .failed →
      Progress operation (some (layer, blockText)) phase held
        [.create configuration, .start, .perform operation block caller, .stop]

namespace Progress

variable {operation : Operation} {arguments : Option (Layer × String)} {phase : Phase}
  {held : Option BlockRef} {made : List Call}

theorem calls_prefix (progress : Progress operation arguments phase held made) :
    ∃ caller, made <+: fullCalls operation caller arguments := by
  cases progress with
  | idle => exact ⟨"", List.nil_prefix⟩
  | setupFailed caller cut => exact ⟨caller, cut⟩
  | ready loaded parsed =>
      refine ⟨"", ?_⟩
      simp only [fullCalls, loaded, parsed]
      exact List.prefix_append [_, _] _
  | @ran _ _ _ _ caller _ _ loaded parsed _ =>
      refine ⟨caller, ?_⟩
      simp only [fullCalls, loaded, parsed]
      exact List.prefix_append [_, _, _] _
  | @ended _ _ _ _ caller _ _ loaded parsed _ =>
      refine ⟨caller, ?_⟩
      simp only [fullCalls, loaded, parsed]
      exact List.prefix_rfl

theorem of_idle (progress : Progress operation arguments phase held made)
    (idle : phase = .idle) : arguments = none ∧ made = [] := by
  cases progress with
  | idle => exact ⟨rfl, rfl⟩
  | setupFailed caller cut => contradiction
  | ready loaded parsed => contradiction
  | ran loaded parsed either => simp [idle] at either
  | ended loaded parsed either => simp [idle] at either

theorem of_ready (progress : Progress operation arguments phase held made)
    (ready : phase = .ready) :
    ∃ layer blockText configuration block, arguments = some (layer, blockText) ∧
      Configuration.load layer = .ok configuration ∧ BlockRef.parse blockText = .ok block ∧
      held = some block ∧ made = [.create configuration, .start] := by
  cases progress with
  | idle => contradiction
  | setupFailed caller cut => contradiction
  | ready loaded parsed => exact ⟨_, _, _, _, rfl, loaded, parsed, rfl, rfl⟩
  | ran loaded parsed either => simp [ready] at either
  | ended loaded parsed either => simp [ready] at either

theorem of_ran (progress : Progress operation arguments phase held made)
    (ran : phase = .ran ∨ phase = .runFailed) :
    ∃ layer blockText configuration block caller, arguments = some (layer, blockText) ∧
      Configuration.load layer = .ok configuration ∧ BlockRef.parse blockText = .ok block ∧
      made = [.create configuration, .start, .perform operation block caller] := by
  cases progress with
  | idle => simp at ran
  | setupFailed caller cut => simp at ran
  | ready loaded parsed => simp at ran
  | ran loaded parsed either => exact ⟨_, _, _, _, _, rfl, loaded, parsed, rfl⟩
  | ended loaded parsed either =>
      rcases either with rfl | rfl
      · simp at ran
      · simp at ran

theorem arguments_kept (progress : Progress operation arguments phase held made)
    {point : EntryPoint} (early : ¬ point.Admissible phase) :
    arguments.or point.setup? = arguments := by
  cases progress with
  | idle =>
      cases point with
      | setup layer blockText invocation => exact absurd rfl early
      | invoke layer blockText invocation => exact absurd rfl early
      | run invocation => rfl
      | teardown invocation => rfl
  | _ => rfl

end Progress

variable {pipeline : Pipeline World} {layer : Layer} {blockText : String}
  {invocation : Invocation} {start finish : Run World} {calls : List CallRecord}

theorem visit_of_inadmissible {point : EntryPoint} (early : ¬ point.Admissible start.phase) :
    pipeline.visit point start = (.error (.misuse point.misuse), start) := by
  cases point with
  | setup layer blockText invocation => exact setup_of_not_idle early
  | run invocation => exact run_of_not_ready early
  | teardown invocation => exact teardown_of_not_run (not_or.mp early)
  | invoke layer blockText invocation => exact invoke_of_not_idle early

theorem prefix_fullCalls {configuration : Configuration} {made : List Call}
    (loaded : Configuration.load layer = .ok configuration)
    (cut : made <+: [.create configuration, .start]) (operation : Operation) (caller : String) :
    made <+: fullCalls operation caller (some (layer, blockText)) := by
  apply cut.trans
  simp only [fullCalls, loaded]
  cases BlockRef.parse blockText with
  | error cause => exact List.prefix_rfl
  | ok block => exact List.prefix_append [_, _] _

theorem SetupCourse.progress_of_error {failure : Failure}
    (course : SetupCourse pipeline layer blockText invocation start (.error failure) finish calls)
    (held : Option BlockRef) :
    Progress pipeline.operation (some (layer, blockText)) .setupFailed held
      (calls.map CallRecord.call) := by
  cases course with
  | configRejected rejected => exact .setupFailed "" List.nil_prefix
  | createFailed loaded failed =>
      exact .setupFailed "" (prefix_fullCalls loaded (List.prefix_append [_] _) _ _)
  | serviceAbsent loaded absent =>
      exact .setupFailed "" (prefix_fullCalls loaded (List.prefix_append [_] _) _ _)
  | startFailed loaded created failed =>
      exact .setupFailed "" (prefix_fullCalls loaded List.prefix_rfl _ _)
  | blockRejected loaded created started rejected =>
      exact .setupFailed "" (prefix_fullCalls loaded List.prefix_rfl _ _)
  | storageIncomplete loaded created started parsed incomplete =>
      exact .setupFailed "" (prefix_fullCalls loaded List.prefix_rfl _ _)

theorem SetupCourse.progress_of_ok
    (course : SetupCourse pipeline layer blockText invocation start (.ok ()) finish calls) :
    Progress pipeline.operation (some (layer, blockText)) finish.phase finish.context.block
      (calls.map CallRecord.call) := by
  obtain ⟨configuration, block, loaded, parsed, _, ready, context, rfl⟩ := course.ready_run
  rw [ready, context]
  exact .ready loaded parsed

theorem SetupCourse.progress_of_stopped {ready : Run World} {block : BlockRef}
    (course : SetupCourse pipeline layer blockText invocation start (.ok ()) ready calls)
    (resolved : ready.context.block = some block) (performed stopped : CallEnd) {phase : Phase}
    (ended : phase = .completed ∨ phase = .failed) (held : Option BlockRef) :
    Progress pipeline.operation (some (layer, blockText)) phase held
      ((calls ++ [CallRecord.mk (.perform pipeline.operation block invocation.command) performed,
        CallRecord.mk .stop stopped]).map CallRecord.call) := by
  obtain ⟨configuration, parsedBlock, loaded, parsed, _, _, context, rfl⟩ := course.ready_run
  rw [context] at resolved
  obtain rfl : parsedBlock = block := Option.some.inj resolved
  exact .ended loaded parsed ended

theorem InvokeCourse.progress {result : Except Failure Unit}
    (course : InvokeCourse pipeline layer blockText invocation start result finish calls) :
    Progress pipeline.operation (some (layer, blockText)) finish.phase finish.context.block
      (calls.map CallRecord.call) := by
  cases course with
  | setupFailed setupCourse => exact setupCourse.progress_of_error _
  | completed setupCourse resolved performed stopped =>
      exact setupCourse.progress_of_stopped resolved _ _ (Or.inl rfl) _
  | stopFailed setupCourse resolved performed failed =>
      exact setupCourse.progress_of_stopped resolved _ _ (Or.inr rfl) _
  | runFailed setupCourse resolved failed stopped =>
      exact setupCourse.progress_of_stopped resolved _ _ (Or.inr rfl) _
  | bothFailed setupCourse resolved failed failedToo =>
      exact setupCourse.progress_of_stopped resolved _ _ (Or.inr rfl) _

theorem answer_ne_misuse (result : Except Failure Unit) (misuse : Misuse) :
    answer result ≠ .error (.misuse misuse) := by
  cases result with
  | error failure => simp [answer]
  | ok done => simp [answer]

/-- An entry point is carried out: it ends in no misuse, its calls are added to the record, and the
phase it leaves tells how far the life of the command has come. -/
def CarriedOut (pipeline : Pipeline World) (point : EntryPoint) (start : Run World)
    (before : List CallRecord) (arguments : Option (Layer × String)) : Prop :=
  ∃ result finish calls, pipeline.visit point start = (answer result, finish) ∧
    pipeline.recorded.visit point (start.withCalls before) =
      (answer result, finish.withCalls calls) ∧
    Progress pipeline.operation arguments finish.phase finish.context.block
      (calls.map CallRecord.call)

theorem setup_carriedOut (idle : start.phase = .idle) :
    pipeline.CarriedOut (.setup layer blockText invocation) start [] (some (layer, blockText)) := by
  obtain ⟨result, ready, calls, course⟩ :=
    exists_setupCourse pipeline layer blockText invocation start
  have idleRecorded : (start.withCalls []).phase = .idle := idle
  cases result with
  | error failure =>
      exact ⟨.error failure, _, calls, course.setup_eq_of_error idle,
        (course.recorded []).setup_eq_of_error idleRecorded, course.progress_of_error _⟩
  | ok done =>
      exact ⟨.ok (), ready, calls, course.setup_eq_of_ok idle,
        (course.recorded []).setup_eq_of_ok idleRecorded, course.progress_of_ok⟩

theorem invoke_carriedOut (idle : start.phase = .idle) :
    pipeline.CarriedOut (.invoke layer blockText invocation) start []
      (some (layer, blockText)) := by
  obtain ⟨result, finish, calls, course⟩ :=
    exists_invokeCourse pipeline layer blockText invocation start
  exact ⟨result, finish, calls, course.invoke_eq idle, course.recorded_invoke_eq idle [],
    course.progress⟩

theorem run_carriedOut {before : List CallRecord} {arguments : Option (Layer × String)}
    (progress : Progress pipeline.operation arguments start.phase start.context.block
      (before.map CallRecord.call))
    (ready : start.phase = .ready) :
    pipeline.CarriedOut (.run invocation) start before arguments := by
  obtain ⟨layer, blockText, configuration, block, rfl, loaded, parsed, resolved, made⟩ :=
    progress.of_ready ready
  have readyRecorded : (start.withCalls before).phase = .ready := ready
  have plain : pipeline.run invocation start = _ := run_of_ready ready resolved
  have kept : pipeline.recorded.run invocation (start.withCalls before) = _ :=
    run_of_ready readyRecorded resolved
  rcases performed : (pipeline.commandRun block start).called
    (pipeline.backend.perform pipeline.operation invocation block) with ⟨result, after⟩
  rw [performed] at plain
  rw [performing_recorded performed before] at kept
  have next (phase : Phase) (either : phase = .ran ∨ phase = .runFailed) :
      Progress pipeline.operation (some (layer, blockText)) phase after.context.block
        ((before ++ [CallRecord.mk (.perform pipeline.operation block invocation.command)
          (.ofResult (fun _ => .returned) result)]).map CallRecord.call) := by
    rw [List.map_append, made]
    exact .ran loaded parsed either
  cases result with
  | error fault =>
      exact ⟨.error (.run pipeline.command.name fault), _, _, plain, kept,
        next .runFailed (Or.inr rfl)⟩
  | ok done => exact ⟨.ok (), _, _, plain, kept, next .ran (Or.inl rfl)⟩

theorem teardown_carriedOut {before : List CallRecord} {arguments : Option (Layer × String)}
    (progress : Progress pipeline.operation arguments start.phase start.context.block
      (before.map CallRecord.call))
    (ran : start.phase = .ran ∨ start.phase = .runFailed) :
    pipeline.CarriedOut (.teardown invocation) start before arguments := by
  obtain ⟨layer, blockText, configuration, block, caller, rfl, loaded, parsed, made⟩ :=
    progress.of_ran ran
  rcases stopping : start.called (pipeline.backend.stop invocation) with ⟨result, after⟩
  have recorded : (start.withCalls before).called (pipeline.recorded.backend.stop invocation) = _ :=
    Run.called_record stopping _ _ before
  have next (phase : Phase) (either : phase = .completed ∨ phase = .failed) :
      Progress pipeline.operation (some (layer, blockText)) phase after.context.block
        ((before ++ [CallRecord.mk .stop (.ofResult (fun _ => .returned) result)]).map
          CallRecord.call) := by
    rw [List.map_append, made]
    exact .ended loaded parsed either
  rcases ran with ran | failed
  · have ranRecorded : (start.withCalls before).phase = .ran := ran
    have plain : pipeline.teardown invocation start = _ := teardown_of_ran ran
    have kept : pipeline.recorded.teardown invocation (start.withCalls before) = _ :=
      teardown_of_ran ranRecorded
    rw [stopping] at plain
    rw [recorded] at kept
    cases result with
    | error fault => exact ⟨.error (.stop fault), _, _, plain, kept, next .failed (Or.inr rfl)⟩
    | ok done => exact ⟨.ok (), _, _, plain, kept, next .completed (Or.inl rfl)⟩
  · have failedRecorded : (start.withCalls before).phase = .runFailed := failed
    have plain : pipeline.teardown invocation start = _ := teardown_of_runFailed failed
    have kept : pipeline.recorded.teardown invocation (start.withCalls before) = _ :=
      teardown_of_runFailed failedRecorded
    rw [stopping] at plain
    rw [recorded] at kept
    cases result with
    | error fault => exact ⟨.error (.stop fault), _, _, plain, kept, next .failed (Or.inr rfl)⟩
    | ok done => exact ⟨.ok (), _, _, plain, kept, next .failed (Or.inr rfl)⟩

theorem visit_carriedOut {before : List CallRecord} {arguments : Option (Layer × String)}
    (progress : Progress pipeline.operation arguments start.phase start.context.block
      (before.map CallRecord.call))
    {point : EntryPoint} (inTurn : point.Admissible start.phase) :
    pipeline.CarriedOut point start before (arguments.or point.setup?) := by
  cases point with
  | setup layer blockText invocation =>
      obtain ⟨rfl, made⟩ := progress.of_idle inTurn
      obtain rfl : before = [] := List.map_eq_nil_iff.mp made
      exact setup_carriedOut inTurn
  | run invocation =>
      have kept : arguments.or (EntryPoint.run invocation).setup? = arguments := Option.or_none
      rw [kept]
      exact run_carriedOut progress inTurn
  | teardown invocation =>
      have kept : arguments.or (EntryPoint.teardown invocation).setup? = arguments :=
        Option.or_none
      rw [kept]
      exact teardown_carriedOut progress inTurn
  | invoke layer blockText invocation =>
      obtain ⟨rfl, made⟩ := progress.of_idle inTurn
      obtain rfl : before = [] := List.map_eq_nil_iff.mp made
      exact invoke_carriedOut inTurn

theorem visit_progress {before : List CallRecord} {arguments : Option (Layer × String)}
    (progress : Progress pipeline.operation arguments start.phase start.context.block
      (before.map CallRecord.call))
    (point : EntryPoint) :
    ∃ calls, (pipeline.recorded.visit point (start.withCalls before)).2 =
        (pipeline.visit point start).2.withCalls calls ∧
      Progress pipeline.operation (arguments.or point.setup?) (pipeline.visit point start).2.phase
        (pipeline.visit point start).2.context.block (calls.map CallRecord.call) := by
  by_cases inTurn : point.Admissible start.phase
  · obtain ⟨result, finish, calls, plain, recorded, next⟩ := visit_carriedOut progress inTurn
    rw [plain, recorded]
    exact ⟨calls, rfl, next⟩
  · have early : ¬ point.Admissible (start.withCalls before).phase := inTurn
    rw [visit_of_inadmissible inTurn, visit_of_inadmissible early, progress.arguments_kept inTurn]
    exact ⟨before, rfl, progress⟩

theorem history_progress {before : List CallRecord} {arguments : Option (Layer × String)}
    (progress : Progress pipeline.operation arguments start.phase start.context.block
      (before.map CallRecord.call))
    (points : List EntryPoint) :
    ∃ calls, pipeline.recorded.history points (start.withCalls before) =
        (pipeline.history points start).withCalls calls ∧
      Progress pipeline.operation (arguments.or (points.findSome? EntryPoint.setup?))
        (pipeline.history points start).phase (pipeline.history points start).context.block
        (calls.map CallRecord.call) := by
  induction points generalizing start before arguments with
  | nil =>
      rw [List.findSome?_nil, Option.or_none]
      exact ⟨before, rfl, progress⟩
  | cons point rest ih =>
      obtain ⟨calls, visited, next⟩ := visit_progress progress point
      have first : (point :: rest).findSome? EntryPoint.setup? =
          point.setup?.or (rest.findSome? EntryPoint.setup?) := by
        rw [List.findSome?_cons]
        cases point.setup? <;> rfl
      obtain ⟨more, followed, last⟩ := ih next
      rw [← visited] at followed
      rw [first, ← Option.or_assoc]
      exact ⟨more, followed, last⟩

theorem inadmissible_of_ended {phase : Phase}
    (ended : phase = .setupFailed ∨ phase = .completed ∨ phase = .failed) (point : EntryPoint) :
    ¬ point.Admissible phase := by
  rcases ended with rfl | rfl | rfl
  · cases point <;> simp [EntryPoint.Admissible]
  · cases point <;> simp [EntryPoint.Admissible]
  · cases point <;> simp [EntryPoint.Admissible]

theorem history_of_inadmissible
    (early : ∀ point : EntryPoint, ¬ point.Admissible start.phase) (points : List EntryPoint) :
    pipeline.history points start = start := by
  induction points with
  | nil => rfl
  | cons point rest ih =>
      calc pipeline.history (point :: rest) start
          _ = pipeline.history rest (pipeline.visit point start).2 := rfl
          _ = pipeline.history rest start := by rw [visit_of_inadmissible (early point)]
          _ = start := ih

/-- What a history leaves behind: the calls of one life, cut short at some point, in which nothing
is called twice or out of order or with other arguments than those of the first setup; and a
pipeline that an entry point called out of turn does not touch. -/
structure Orderly (pipeline : Pipeline World) (points : List EntryPoint) (finish : Run World)
    (calls : List CallRecord) : Prop where
  inOrder : ∃ operation caller, pipeline.command.operation = some operation ∧
    calls.map CallRecord.call <+: fullCalls operation caller (points.findSome? EntryPoint.setup?)
  outOfTurn : ∀ point : EntryPoint, ¬ point.Admissible finish.phase →
    pipeline.recorded.visit point (finish.withCalls calls) =
      (.error (.misuse point.misuse), finish.withCalls calls)
  inTurn : ∀ point : EntryPoint, point.Admissible finish.phase →
    ∀ misuse, (pipeline.recorded.visit point (finish.withCalls calls)).1 ≠ .error (.misuse misuse)
  ended : finish.phase = .setupFailed ∨ finish.phase = .completed ∨ finish.phase = .failed →
    ∀ more, pipeline.recorded.history more (finish.withCalls calls) = finish.withCalls calls

/-- Whatever entry points of an idle pipeline are called, in whatever order and however the backend
answers, the history is orderly; recording its calls does not change it. -/
theorem history_orderly (pipeline : Pipeline World) (points : List EntryPoint)
    (start : Run World) (idle : start.phase = .idle) :
    ∃ calls, pipeline.recorded.history points (start.withCalls []) =
        (pipeline.history points start).withCalls calls ∧
      Orderly pipeline points (pipeline.history points start) calls := by
  have untouched : Progress pipeline.operation none start.phase start.context.block
      (([] : List CallRecord).map CallRecord.call) := by
    rw [idle]
    exact .idle
  obtain ⟨calls, recorded, progress⟩ := history_progress untouched points
  rw [Option.none_or] at progress
  refine ⟨calls, recorded, ?_⟩
  constructor
  case inOrder =>
    obtain ⟨caller, cut⟩ := progress.calls_prefix
    exact ⟨pipeline.operation, caller, pipeline.bound, cut⟩
  case outOfTurn =>
    intro point early
    exact visit_of_inadmissible early
  case inTurn =>
    intro point inTurn misuse
    obtain ⟨result, _, _, _, carried, _⟩ := visit_carriedOut progress inTurn
    rw [carried]
    exact answer_ne_misuse result misuse
  case ended =>
    intro ended more
    have never (point : EntryPoint) : ¬ point.Admissible
        ((pipeline.history points start).withCalls calls).phase :=
      inadmissible_of_ended ended point
    exact history_of_inadmissible never more

theorem history_orderly_out_of_turn :
    let pipeline : Pipeline Unit := ⟨.prepare, .prepare, rfl,
      Script.backend { performFault := some (.other "no data") }⟩
    let start : Run Unit := { world := () }
    let invocation : Invocation := ⟨"prepare", ⟨0⟩⟩
    let points : List EntryPoint := [.run invocation, .setup {} "latest" invocation,
      .setup {} "17" invocation, .run invocation, .invoke {} "safe" invocation,
      .teardown invocation, .teardown invocation]
    start.phase = .idle ∧ (pipeline.history points start).phase = .failed ∧
      ∃ calls, pipeline.recorded.history points (start.withCalls []) =
          (pipeline.history points start).withCalls calls ∧
        Orderly pipeline points (pipeline.history points start) calls := by
  refine ⟨rfl, ?_, history_orderly _ _ _ rfl⟩
  decide +kernel

end Pipeline

end ProverInput
