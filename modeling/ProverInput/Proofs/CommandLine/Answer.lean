import ProverInput.Proofs.CommandLine.Grammar
import ProverInput.Proofs.CommandLine.Program
import ProverInput.Proofs.CommandLine.Request
import ProverInput.Proofs.Configuration.Settings

/-!
The answer to a command line. The first item that stops the program decides; when all items pass,
the command, the help flag and the block option do. Each command line has exactly one answer, and
the program gives it.
-/

namespace ProverInput.CommandLine

def Chooses (items : List Item) (block : String) : Prop :=
  (∃ option, .block option (some block) ∈ items) ∨
    (∀ option held, .block option held ∉ items) ∧ block = "latest"

inductive Answers (items : List Item) : Answer → Prop
  | stopped {earlier item later answer} :
      items = earlier ++ item :: later → Passes [] earlier → Stops earlier item answer →
      Answers items answer
  | helpAsked :
      Passes [] items → (∀ name, .word name ∉ items) → .help ∈ items →
      Answers items (.prints usageText 0)
  | noCommand :
      Passes [] items → (∀ name, .word name ∉ items) → .help ∉ items →
      Answers items (.prints usageText 1)
  | helpCommand :
      Passes [] items → .word "help" ∈ items → Answers items (.prints usageText 0)
  | unknownCommand {name} :
      Passes [] items → .word name ∈ items → name ≠ "help" →
      (∀ command ∈ Command.all, command.name ≠ name) →
      Answers items (.rejects "E_UNKNOWN_COMMAND" ("Unknown command: " ++ name)
        "Run 'zkpig --help' to see the list of available commands")
  | commandHelp {command} :
      Passes [] items → command ∈ Command.all → .word command.name ∈ items → .help ∈ items →
      Answers items (.prints (commandUsageText command) 0)
  | blockNotTaken {option held} :
      Passes [] items → .word "config" ∈ items → .help ∉ items → .block option held ∈ items →
      Answers items (.rejects "E_UNKNOWN_OPTION" "config does not accept --block-number"
        "Run 'zkpig config --help' to view usage")
  | config :
      Passes [] items → .word "config" ∈ items → .help ∉ items →
      (∀ option held, .block option held ∉ items) →
      Answers items (.showsConfig (given items))
  | pipeline {command operation block} :
      Passes [] items → command ∈ Command.all → command.operation = some operation →
      .word command.name ∈ items → .help ∉ items → Chooses items block →
      Answers items (.invokes command block (given items))

/-- The outcome of a run is the answer. A broken output loses what is printed. -/
def Answer.Given (surroundings : Surroundings) (outcome : Outcome) : Answer → Prop
  | .prints text exitCode =>
    outcome.output = (if surroundings.outputWorks then text else "") ∧
      outcome.ending.exitCode = exitCode ∧ ∀ stamp, outcome.errorOutput stamp = ""
  | .rejects code text hint =>
    outcome.output = "" ∧ outcome.ending.exitCode = 1 ∧ ∀ stamp, outcome.errorOutput stamp
      = "[" ++ code ++ "] " ++ Text.beforeNul text ++ "\n" ++ "Hint: " ++ hint ++ "\n"
  | .showsConfig given => outcome = perform surroundings given .showConfig
  | .invokes command block given => outcome = perform surroundings given (.invoke command block)

def UsageError.answer (cause : UsageError) : Answer :=
  .rejects cause.code cause.text cause.hint

def Task.answer (given : List (Setting × String)) : Task → Answer
  | .usage asked => .prints usageText (if asked then 0 else 1)
  | .commandUsage command => .prints (commandUsageText command) 0
  | .showConfig => .showsConfig given
  | .invoke command block => .invokes command block given

def Request.answer (request : Request) : Answer :=
  match Task.ofRequest request with
  | .error cause => cause.answer
  | .ok task => task.answer request.settings

def answerOf : Except Halt Request → Answer
  | .error halt => halt.answer
  | .ok request => request.answer

variable {request : Request} {items : List Item}

theorem Request.Holds.getD_block (holds : request.Holds items) {block : String}
    (chosen : Chooses items block) : request.block.getD "latest" = block := by
  rcases chosen with present | ⟨absent, rfl⟩
  · rw [(holds.block block).mpr present, Option.getD_some]
  · rw [holds.no_block.mpr absent, Option.getD_none]

theorem Request.Holds.chooses (holds : request.Holds items) :
    Chooses items (request.block.getD "latest") := by
  cases held : request.block with
  | none => exact Or.inr ⟨holds.no_block.mp held, rfl⟩
  | some block => exact Or.inl ((holds.block block).mp held)

theorem Request.Holds.no_help (holds : request.Holds items) (unasked : .help ∉ items) :
    request.help = false := by
  rw [← Bool.not_eq_true, holds.help]
  exact unasked

theorem Request.Holds.answers (holds : request.Holds items) (passes : Passes [] items) :
    Answers items request.answer := by
  have present {name : String} (commanded : request.command = some name) : .word name ∈ items :=
    (holds.command name).mp commanded
  have unasked (notAsked : request.help = false) : .help ∉ items := by
    rw [← holds.help, notAsked]
    exact Bool.false_ne_true
  have asks := asks_ofRequest request
  rw [Request.answer]
  cases task : Task.ofRequest request with
  | error cause =>
      rw [task] at asks
      cases asks with
      | unknownCommand commanded notHelp unknown =>
          exact .unknownCommand passes (present commanded) notHelp unknown
      | blockNotTaken commanded notAsked held =>
          obtain ⟨option, taken⟩ := (holds.block _).mp held
          exact .blockNotTaken passes (present commanded) (unasked notAsked) taken
  | ok task =>
      rw [task] at asks
      cases asks with
      | noCommand commanded =>
          have absent := holds.no_command.mp commanded
          cases asked : request.help with
          | false => exact .noCommand passes absent (unasked asked)
          | true => exact .helpAsked passes absent (holds.help.mp asked)
      | helpCommand commanded => exact .helpCommand passes (present commanded)
      | commandHelp listed commanded asked =>
          exact .commandHelp passes listed (present commanded) (holds.help.mp asked)
      | pipeline listed commanded notAsked bound =>
          simp only [Task.answer, holds.settings]
          exact .pipeline passes listed bound (present commanded) (unasked notAsked) holds.chooses
      | config commanded notAsked held =>
          simp only [Task.answer, holds.settings]
          exact .config passes (present commanded) (unasked notAsked) (holds.no_block.mp held)

theorem answers_answerOf (items : List Item) :
    Answers items (answerOf (items.foldlM Request.add {})) := by
  rcases Request.holds_empty.foldlM items with ⟨request, read, holds, passes⟩ |
    ⟨halt, earlier, item, later, read, split, passes, stops⟩
  · rw [read]
    exact holds.answers passes
  · rw [read]
    exact .stopped split passes stops

theorem Answers.eq_answerOf {answer : Answer} (answers : Answers items answer) :
    answer = answerOf (items.foldlM Request.add {}) := by
  have request (passes : Passes [] items) :
      ∃ request, items.foldlM Request.add {} = .ok request ∧ request.Holds items :=
    Request.holds_empty.foldlM_of_passes passes
  cases answers with
  | stopped split passes stops =>
      obtain ⟨halt, read, rfl⟩ := Request.holds_empty.foldlM_of_stops passes stops
      rw [split, read]
      rfl
  | helpAsked passes absent asked =>
      obtain ⟨request, read, holds⟩ := request passes
      rw [read]
      simp only [answerOf, Request.answer, Task.ofRequest, holds.no_command.mpr absent,
        Task.answer, holds.help.mpr asked, if_true]
  | noCommand passes absent unasked =>
      obtain ⟨request, read, holds⟩ := request passes
      rw [read]
      simp [answerOf, Request.answer, Task.ofRequest, holds.no_command.mpr absent,
        Task.answer, holds.no_help unasked]
  | helpCommand passes present =>
      obtain ⟨request, read, holds⟩ := request passes
      rw [read]
      simp only [answerOf, Request.answer, Task.ofRequest, (holds.command _).mpr present, if_true,
        Task.answer]
  | @unknownCommand name passes present notHelp unknown =>
      obtain ⟨request, read, holds⟩ := request passes
      rw [read]
      simp only [answerOf, Request.answer, Task.ofRequest, (holds.command _).mpr present, notHelp,
        if_false, (find?_eq_none_iff name).mpr unknown]
      rfl
  | commandHelp passes listed present asked =>
      obtain ⟨request, read, holds⟩ := request passes
      rw [read]
      simp only [answerOf, Request.answer,
        ofRequest_of_listed listed ((holds.command _).mpr present), holds.help.mpr asked, if_true,
        Task.answer]
  | blockNotTaken passes present unasked taken =>
      obtain ⟨request, read, holds⟩ := request passes
      have listed : Command.config ∈ Command.all := by decide
      have blocked : request.block.isSome = true := by
        rw [Option.isSome_iff_ne_none]
        intro none
        exact holds.no_block.mp none _ _ taken
      have task := ofRequest_of_listed listed ((holds.command "config").mpr present)
      rw [holds.no_help unasked, blocked] at task
      rw [read]
      simp only [answerOf, Request.answer, task]
      rfl
  | config passes present unasked absent =>
      obtain ⟨request, read, holds⟩ := request passes
      have listed : Command.config ∈ Command.all := by decide
      have task := ofRequest_of_listed listed ((holds.command "config").mpr present)
      rw [holds.no_help unasked, holds.no_block.mpr absent] at task
      rw [read, ← holds.settings]
      simp only [answerOf, Request.answer, task]
      rfl
  | pipeline passes listed bound present unasked chosen =>
      obtain ⟨request, read, holds⟩ := request passes
      have task := ofRequest_of_listed listed ((holds.command _).mpr present)
      rw [holds.no_help unasked, bound, holds.getD_block chosen] at task
      rw [read, ← holds.settings]
      simp only [answerOf, Request.answer, task]
      rfl

theorem answers_iff (items : List Item) (answer : Answer) :
    Answers items answer ↔ answer = answerOf (items.foldlM Request.add {}) := by
  constructor
  · exact Answers.eq_answerOf
  · rintro rfl
    exact answers_answerOf items

namespace UsageError

def codes : List String :=
  ["E_MISSING_VALUE", "E_UNEXPECTED_ARGUMENT", "E_DUPLICATE_OPTION", "E_UNKNOWN_OPTION",
    "E_UNKNOWN_COMMAND"]

theorem code_mem (cause : UsageError) : cause.code ∈ codes := by
  cases cause <;> simp [code, codes]

theorem code_clean (cause : UsageError) : cause.code ≠ "" ∧ '\x00' ∉ cause.code.toList := by
  have all : ∀ code ∈ codes, code ≠ "" ∧ '\x00' ∉ code.toList := by decide
  exact all cause.code cause.code_mem

theorem hint_ne_empty (cause : UsageError) : cause.hint ≠ "" := by
  unfold hint
  cases cause <;> simp

end UsageError

theorem given_rejected (surroundings : Surroundings) (cause : UsageError) :
    cause.answer.Given surroundings { ending := .rejected cause } := by
  obtain ⟨named, clean⟩ := cause.code_clean
  refine ⟨rfl, rfl, ?_⟩
  intro stamp
  rw [errorOutput_of_complaint rfl named clean, if_neg cause.hint_ne_empty]
  refine String.empty_append.trans ?_
  simp only [String.append_assoc]

theorem given_shown (surroundings : Surroundings) (text : String) {ending : Ending}
    (quiet : ending.report = "") :
    (Answer.prints text ending.exitCode).Given surroundings (shown surroundings text ending) := by
  refine ⟨rfl, rfl, ?_⟩
  intro stamp
  have report : (shown surroundings text ending).errorOutput stamp = ending.report :=
    String.empty_append
  rw [report, quiet]

theorem given_answerOf (surroundings : Surroundings) (arguments : List String) :
    (answerOf (Request.ofArguments arguments)).Given surroundings (run surroundings arguments) := by
  rw [run]
  cases Request.ofArguments arguments with
  | error halt =>
      cases halt with
      | version => exact given_shown surroundings versionText rfl
      | error cause => exact given_rejected surroundings cause
  | ok request =>
      simp only [answerOf, Request.answer]
      cases Task.ofRequest request with
      | error cause => exact given_rejected surroundings cause
      | ok task =>
          cases task with
          | usage asked =>
              cases asked with
              | false => exact given_shown surroundings usageText rfl
              | true => exact given_shown surroundings usageText rfl
          | commandUsage command => exact given_shown surroundings _ rfl
          | showConfig => rfl
          | invoke command block => rfl

theorem Request.Holds.contains_iff (holds : request.Holds items) (setting : Setting) :
    (Layer.ofList (given items)).contains setting.key = true ↔
      ∃ held, .setting setting held ∈ items := by
  rw [← holds.gives_iff, (Layer.gives_ofList _).contains, ← holds.settings, gives,
    List.any_eq_true, List.lookup_isSome_iff]
  simp

/-- Every command line has one reading and one answer, which the program gives. Up to the item that
stops the program, an option counts as given when the layer of the settings read so far holds it. -/
theorem run_follows_grammar (surroundings : Surroundings) (arguments : List String) :
    ∃ items answer, (∀ other, Reads arguments other ↔ other = items) ∧
      (∀ other, Answers items other ↔ other = answer) ∧
      answer.Given surroundings (run surroundings arguments) ∧
      ∀ earlier later, items = earlier ++ later → Passes [] earlier → ∀ setting : Setting,
        (Layer.ofList (given earlier)).contains setting.key = true ↔
          ∃ held, .setting setting held ∈ earlier := by
  refine ⟨Item.ofArguments arguments, answerOf (Request.ofArguments arguments),
    reads_iff arguments, answers_iff _, given_answerOf surroundings arguments, ?_⟩
  intro earlier later _ passes setting
  obtain ⟨request, _, holds⟩ := Request.holds_empty.foldlM_of_passes passes
  exact holds.contains_iff setting

theorem run_follows_grammar_repeated_block :
    let arguments := ["-b", "--version", "--chain-id", "generate", "--block-number"]
    let earlier : List Item := [.block "-b" (some "--version"), .setting .chainId (some "generate")]
    Passes [] earlier ∧ (Layer.ofList (given earlier)).contains "chain.id" = true ∧
      ∀ surroundings stamp, (run surroundings arguments).errorOutput stamp
        = "[E_DUPLICATE_OPTION] Option --block-number specified multiple times\n"
          ++ "Hint: Select a single block per invocation\n" := by
  intro arguments earlier
  have reading : Reads arguments (earlier ++ [.block "--block-number" none]) := by
    have block : "-b" ∈ blockFlags := by decide
    have setting : (Item.setting .chainId (some "generate")).Spells ["--chain-id", "generate"] :=
      .setting
    have option : "--block-number" ∈ blockFlags := by decide
    exact .group (.block block) (.group setting (.blockAlone option))
  have passes : Passes [] earlier := by
    refine ⟨?_, ?_, trivial⟩
    · rintro answer (_ | _)
      contradiction
    · rintro answer (_ | _)
      rename_i held member
      simp at member
  have answered : Answers (earlier ++ [.block "--block-number" none])
      (.rejects "E_DUPLICATE_OPTION" "Option --block-number specified multiple times"
        "Select a single block per invocation") :=
    .stopped rfl passes (.secondBlock List.mem_cons_self)
  refine ⟨passes, ?_, ?_⟩
  · obtain ⟨items, _, read, _, _, held⟩ :=
      run_follows_grammar { environment := fun _ => none } arguments
    obtain rfl := (read _).mp reading
    exact (held earlier _ rfl passes .chainId).mpr ⟨some "generate", by simp [earlier]⟩
  · intro surroundings stamp
    obtain ⟨items, _, read, answers, outcome, _⟩ := run_follows_grammar surroundings arguments
    obtain rfl := (read _).mp reading
    obtain rfl := (answers _).mp answered
    exact outcome.2.2 stamp

end ProverInput.CommandLine
