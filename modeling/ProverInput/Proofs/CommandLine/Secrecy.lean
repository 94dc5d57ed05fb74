import ProverInput.Proofs.CommandLine.Program
import ProverInput.Proofs.Configuration.Layering
import ProverInput.Proofs.DryRun.Secrecy

/-!
Secrets on the command line and in the environment. Command lines and environments that are the
same once every secret is masked give the same outcome, unless the configuration is asked for.
-/

namespace ProverInput.CommandLine

def isSecretFlag (argument : String) : Bool :=
  argument = Setting.s3AccessKey.flag || argument = Setting.s3SecretKey.flag

/-- The arguments with every argument masked that is read as the value of a secret setting. -/
def concealArguments : List String → List String
  | [] => []
  | argument :: rest =>
    match Item.ofOption? argument with
    | none => argument :: concealArguments rest
    | some _ =>
      match rest with
      | [] => [argument]
      | value :: later =>
        argument :: (if isSecretFlag argument then Setting.masked value else value)
          :: concealArguments later

def Item.conceal : Item → Item
  | .setting kind (some value) => .setting kind (some (kind.conceal value))
  | item => item

def concealEntry (entry : Setting × String) : Setting × String :=
  (entry.1, entry.1.conceal entry.2)

def Request.conceal (request : Request) : Request :=
  { request with settings := request.settings.map concealEntry }

theorem isSecretFlag_flag (setting : Setting) :
    isSecretFlag setting.flag = setting.isSecret := by
  cases setting <;> decide

theorem conceal_option {argument : String} {item : Option String → Item}
    (option : Item.ofOption? argument = some item) :
    (item none).conceal = item none ∧ ∀ value, (item (some value)).conceal
      = item (some (if isSecretFlag argument then Setting.masked value else value)) := by
  rw [Item.ofOption?] at option
  split at option
  · rename_i block
    obtain rfl := Option.some.inj option
    have notSecret : isSecretFlag argument = false := by
      rcases block with rfl | rfl
      · decide
      · decide
    rw [notSecret]
    exact ⟨rfl, fun value => rfl⟩
  · obtain ⟨setting, found, rfl⟩ := Option.map_eq_some_iff.mp option
    have flag : setting.flag = argument := by
      simpa using List.find?_some found
    rw [← flag, isSecretFlag_flag]
    exact ⟨rfl, fun value => rfl⟩

theorem conceal_argument (argument : String) :
    (Item.ofArgument argument).conceal = Item.ofArgument argument := by
  rw [Item.ofArgument]
  split
  · rfl
  · split
    · rfl
    · split
      · rfl
      · rfl

theorem ofArguments_conceal (arguments : List String) :
    Item.ofArguments (concealArguments arguments)
      = (Item.ofArguments arguments).map Item.conceal := by
  induction arguments using Item.ofArguments.induct with
  | case1 => rfl
  | case2 argument rest plain ih =>
      rw [concealArguments.eq_def]
      simp only [Item.ofArguments, plain, List.map_cons, conceal_argument, ih]
  | case3 argument item option =>
      simp only [concealArguments, Item.ofArguments, option, List.map_cons, List.map_nil,
        (conceal_option option).1]
  | case4 argument item option value later ih =>
      simp only [concealArguments, Item.ofArguments, option, List.map_cons,
        (conceal_option option).2, ih]

namespace Request

theorem gives_conceal (request : Request) (setting : Setting) :
    request.conceal.gives setting = request.gives setting := by
  simp only [gives, conceal, List.any_map]
  rfl

theorem add_conceal (request : Request) (item : Item) :
    (request.add item).map conceal = request.conceal.add item.conceal := by
  cases item with
  | word text =>
      simp only [add, Item.conceal]
      cases given : request.command with
      | none => simp [conceal, given, Except.map]
      | some name => simp [conceal, given, Except.map]
  | help => rfl
  | version => rfl
  | block option value =>
      simp only [add, Item.conceal]
      cases given : request.block with
      | none => cases value <;> simp [conceal, given, Except.map]
      | some text => simp [conceal, given, Except.map]
  | setting kind value =>
      simp only [add]
      cases value with
      | none =>
          simp only [Item.conceal, gives_conceal]
          cases request.gives kind <;> rfl
      | some value =>
          simp only [Item.conceal, gives_conceal]
          cases request.gives kind with
          | true => rfl
          | false => simp [conceal, concealEntry, Except.map]
  | unknown text => rfl

theorem foldlM_add_conceal (items : List Item) (request : Request) :
    (items.foldlM add request).map conceal
      = (items.map Item.conceal).foldlM add request.conceal := by
  induction items generalizing request with
  | nil => rfl
  | cons item rest ih =>
      rw [List.map_cons, List.foldlM_cons, List.foldlM_cons, ← add_conceal]
      cases request.add item with
      | error halt => rfl
      | ok next => exact ih next

theorem ofArguments_conceal (arguments : List String) :
    (ofArguments arguments).map conceal = ofArguments (concealArguments arguments) := by
  rw [ofArguments, ofArguments, CommandLine.ofArguments_conceal]
  exact foldlM_add_conceal _ {}

end Request

theorem requests_alike {arguments changed : List String}
    (same : concealArguments arguments = concealArguments changed) :
    (∃ halt, Request.ofArguments arguments = .error halt ∧
        Request.ofArguments changed = .error halt) ∨
      ∃ request other, Request.ofArguments arguments = .ok request ∧
        Request.ofArguments changed = .ok other ∧ request.conceal = other.conceal := by
  have parsed : (Request.ofArguments arguments).map Request.conceal
      = (Request.ofArguments changed).map Request.conceal := by
    rw [Request.ofArguments_conceal, Request.ofArguments_conceal, same]
  cases left : Request.ofArguments arguments with
  | error halt =>
      cases right : Request.ofArguments changed with
      | error otherHalt =>
          rw [left, right] at parsed
          cases parsed
          exact Or.inl ⟨halt, rfl, rfl⟩
      | ok other => simp [left, right, Except.map] at parsed
  | ok request =>
      cases right : Request.ofArguments changed with
      | error halt => simp [left, right, Except.map] at parsed
      | ok other =>
          simp only [left, right, Except.map, Except.ok.injEq] at parsed
          exact Or.inr ⟨request, other, rfl, rfl, parsed⟩

theorem task_conceal (request : Request) :
    Task.ofRequest request.conceal = Task.ofRequest request := rfl

def isSecretVariable (name : String) : Bool :=
  name = Setting.s3AccessKey.envVar || name = Setting.s3SecretKey.envVar

def concealEnvironment (environment : String → Option String) (name : String) : Option String :=
  (environment name).map fun text => if isSecretVariable name then Setting.masked text else text

theorem concealEnvironment_envVar (environment : String → Option String) (setting : Setting) :
    concealEnvironment environment setting.envVar
      = (environment setting.envVar).map setting.conceal := by
  have secret : isSecretVariable setting.envVar = setting.isSecret := by
    cases setting <;> decide
  rw [concealEnvironment, secret]
  rfl

theorem lookup_conceal (given : List (Setting × String)) (setting : Setting) :
    (given.lookup setting).map setting.conceal = (given.map concealEntry).lookup setting := by
  induction given with
  | nil => rfl
  | cons entry rest ih =>
      obtain ⟨head, value⟩ := entry
      by_cases same : setting = head
      · subst same
        simp [concealEntry]
      · have unequal : (setting == head) = false := by simpa using same
        simp [concealEntry, List.lookup_cons, unequal, ih]

theorem load_settings_conceal {surroundings other : Surroundings}
    {given others : List (Setting × String)}
    (sameEnvironment : concealEnvironment surroundings.environment
      = concealEnvironment other.environment)
    (sameGiven : given.map concealEntry = others.map concealEntry) :
    (Configuration.load (settings surroundings given)).map Configuration.conceal
      = (Configuration.load (settings other others)).map Configuration.conceal := by
  apply Configuration.load_conceal (gives_settings_reverse surroundings given)
    (gives_settings_reverse other others)
  intro setting
  rw [Option.map_or, Option.map_or, lookup_conceal, lookup_conceal, List.map_reverse,
    List.map_reverse, sameGiven, ← concealEnvironment_envVar, ← concealEnvironment_envVar,
    sameEnvironment]

theorem invokeIn_congr {layer other : Layer}
    (alike : (Configuration.load layer).map Configuration.conceal
      = (Configuration.load other).map Configuration.conceal)
    (urls : UrlLibrary) (session : Session) (command : Command) (block : String) :
    invokeIn urls session layer command block = invokeIn urls session other command block := by
  unfold invokeIn
  cases made : Pipeline.make command (some (DryRun.backend urls)) with
  | error cause => rfl
  | ok pipeline =>
      obtain ⟨sameResult, sameRun⟩ := Pipeline.alike_invoke (backend_of_make made) alike block
        ⟨command.name, token⟩ _ _
        (rfl : Run.Alike { world := {}, session } { world := {}, session })
      simp only
      generalize pipeline.invoke layer block _ _ = ended at *
      generalize pipeline.invoke other block _ _ = otherEnded at *
      rcases ended with ⟨result, finish⟩
      rcases otherEnded with ⟨otherResult, otherFinish⟩
      obtain rfl : result = otherResult := sameResult
      have sameSession : finish.session = otherFinish.session := sameRun.session
      simp only [sameSession]

theorem showConfig_of_task {request : Request} (task : Task.ofRequest request = .ok .showConfig) :
    request.command = some Command.config.name := by
  have asks := asks_ofRequest request
  rw [task] at asks
  cases asks with
  | config commanded notAsked held => exact commanded

theorem runIn_congr {surroundings other : Surroundings} {arguments changed : List String}
    (sameOutput : surroundings.outputWorks = other.outputWorks)
    (sameLibrary : surroundings.urls = other.urls)
    (sameEnvironment : concealEnvironment surroundings.environment
      = concealEnvironment other.environment)
    (sameArguments : concealArguments arguments = concealArguments changed)
    (notConfig : ∀ request, Request.ofArguments arguments = .ok request →
      request.command ≠ some Command.config.name) (session : Session) :
    runIn session surroundings arguments = runIn session other changed := by
  have shows (text : String) (ending : Ending) :
      shown surroundings text ending = shown other text ending := by
    rw [shown, shown, sameOutput]
  rcases requests_alike sameArguments with
    ⟨halt, left, right⟩ | ⟨request, request', left, right, same⟩
  · simp only [runIn, run, left, right]
    cases halt with
    | version => exact shows _ _
    | error cause => rfl
  · have sameTask : Task.ofRequest request = Task.ofRequest request' := by
      rw [← task_conceal, same, task_conceal]
    have sameGiven : request.settings.map concealEntry = request'.settings.map concealEntry :=
      congrArg (·.settings) same
    simp only [runIn, run, left, right, sameTask]
    cases asked : Task.ofRequest request' with
    | error cause => rfl
    | ok task =>
        cases task with
        | usage asked => exact shows _ _
        | commandUsage command => exact shows _ _
        | showConfig =>
            exact absurd (showConfig_of_task (sameTask.trans asked)) (notConfig request left)
        | invoke command block =>
            rw [sameLibrary]
            exact invokeIn_congr (load_settings_conceal sameEnvironment sameGiven) other.urls
              session command block

/-- Unless the configuration is asked for, secrets stay out of everything that a run gives. Take
two runs that read the same arguments and variables except for secrets, and each secret is empty in
both or in neither. They print the same, log the same and end the same, whenever a signal arrives
and in whatever session the invocation takes place. -/
theorem run_conceals_secrets (surroundings : Surroundings)
    (environment : String → Option String) (arguments changed : List String)
    (sameArguments : concealArguments arguments = concealArguments changed)
    (sameEnvironment : concealEnvironment surroundings.environment
      = concealEnvironment environment)
    (notConfig : ∀ request, Request.ofArguments arguments = .ok request →
      request.command ≠ some "config") :
    run surroundings arguments = run { surroundings with environment } changed ∧
      ∀ session, runIn session surroundings arguments
        = runIn session { surroundings with environment } changed := by
  have everywhere (session : Session) : runIn session surroundings arguments
      = runIn session { surroundings with environment } changed :=
    runIn_congr (by rfl) (by rfl) sameEnvironment sameArguments notConfig session
  refine ⟨?_, everywhere⟩
  rw [← runIn_session, ← runIn_session]
  exact everywhere (session surroundings)

theorem run_conceals_secrets_incomplete :
    let environment (secret : String) (name : String) : Option String :=
      if name = Setting.s3AccessKey.envVar then some secret else none
    let arguments (secret : String) : List String :=
      ["execute", "--s3-secret-key", secret, "--chain-id", "7"]
    let outcome :=
      run ⟨environment "AKIA", true, some (.interrupt, 5), .plain⟩ (arguments "hunter2")
    outcome = run ⟨environment "-", true, some (.interrupt, 5), .plain⟩ (arguments "--version") ∧
      outcome.ending = .failed (.storage ⟨"s3", ["s3-bucket", "region"]⟩) := by
  intro environment arguments outcome
  have sameArguments :
      concealArguments (arguments "hunter2") = concealArguments (arguments "--version") := by
    decide +kernel
  have sameEnvironment :
      concealEnvironment (environment "AKIA") = concealEnvironment (environment "-") := by
    funext name
    by_cases secret : name = Setting.s3AccessKey.envVar
    · subst secret
      decide +kernel
    · simp [concealEnvironment, environment, secret]
  have notConfig : ∀ request, Request.ofArguments (arguments "hunter2") = .ok request →
      request.command ≠ some "config" := by
    have parsed : Request.ofArguments (arguments "hunter2") = .ok
        { command := "execute"
          settings := [(.s3SecretKey, "hunter2"), (.chainId, "7")] } := by decide +kernel
    intro request found
    rw [parsed] at found
    obtain rfl := Except.ok.inj found
    decide
  refine ⟨(run_conceals_secrets ⟨environment "AKIA", true, some (.interrupt, 5), .plain⟩
    (environment "-") (arguments "hunter2") (arguments "--version") sameArguments sameEnvironment
    notConfig).1, ?_⟩
  decide +kernel

end ProverInput.CommandLine
