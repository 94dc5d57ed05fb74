import ProverInput.Log.Session
import ProverInput.Proofs.Configuration.Dump

/-!
Complete configurations. Defaults fill what is empty and change nothing else, and a configuration
that was loaded has every value in the range that the rest of the program relies on.
-/

namespace ProverInput

namespace Setting

def defaulted : List Setting :=
  [.dataDir, .preflightDir, .inputsDir, .contentType, .contentEncoding, .logLevel, .logFormat]

end Setting

namespace Configuration

theorem singleSlashes_ne_nil {text : List Char} (nonempty : text ≠ []) :
    singleSlashes text ≠ [] := by
  induction text with
  | nil => contradiction
  | cons c rest ih =>
      rw [singleSlashes]
      split
      · rename_i slashes
        apply ih
        rintro rfl
        simp at slashes
      · exact List.cons_ne_nil _ _

theorem childDir_ne_empty (base : String) {name : String} (named : name ≠ "") :
    childDir base name ≠ "" := by
  have joined : ∀ front : String, (front ++ name).toList ≠ [] := by
    intro front
    rw [String.toList_append]
    exact List.append_ne_nil_of_right_ne_nil _ (mt String.toList_eq_nil_iff.mp named)
  rw [childDir]
  split
  · exact mt String.toList_eq_nil_iff.mpr (joined base)
  · rw [Ne, String.ofList_eq_empty_iff]
    exact singleSlashes_ne_nil (joined _)

theorem default_ne_empty_iff (setting : Setting) (dataDir : String) :
    setting.default dataDir ≠ "" ↔ setting ∈ Setting.defaulted := by
  cases setting with
  | preflightDir | inputsDir =>
      have listed : Setting.preflightDir ∈ Setting.defaulted ∧
          Setting.inputsDir ∈ Setting.defaulted := by decide
      simp [Setting.default, childDir_ne_empty, listed]
  | _ =>
      simp only [Setting.default]
      decide

theorem text_withDefaults_of_filled {configuration : Configuration} {setting : Setting}
    (filled : configuration.text setting ≠ "") :
    configuration.withDefaults.text setting = configuration.text setting := by
  rw [text_withDefaults, Text.orElse, if_neg filled]

theorem text_withDefaults_ne_empty (configuration : Configuration) {setting : Setting}
    (listed : setting ∈ Setting.defaulted) : configuration.withDefaults.text setting ≠ "" := by
  rw [text_withDefaults, Text.orElse]
  split
  · exact (default_ne_empty_iff setting _).mpr listed
  · assumption

theorem withDefaults_of_filled {configuration : Configuration}
    (filled : ∀ setting ∈ Setting.defaulted, configuration.text setting ≠ "") :
    configuration.withDefaults = configuration := by
  apply ext_text
  intro setting
  by_cases listed : setting ∈ Setting.defaulted
  · exact text_withDefaults_of_filled (filled setting listed)
  · have none : setting.default (Text.orElse configuration.dataDir "data") = "" := by
      by_contra some
      exact listed ((default_ne_empty_iff setting _).mp some)
    rw [text_withDefaults, none, Text.orElse_empty]

theorem withDefaults_withDefaults (configuration : Configuration) :
    configuration.withDefaults.withDefaults = configuration.withDefaults :=
  withDefaults_of_filled fun _ listed => text_withDefaults_ne_empty configuration listed

structure WellFormed (configuration : Configuration) : Prop where
  chainId : ∀ id, configuration.chain.id = some id → 1 ≤ id.toNat ∧ id.toNat ≤ 2 ^ 63 - 1
  dataDir : configuration.dataDir ≠ ""
  preflightDir : configuration.preflightDir ≠ ""
  inputsDir : configuration.inputs.dir ≠ ""
  contentType : configuration.inputs.contentType ∈ ["application/json", "application/protobuf"]
  contentEncoding : configuration.inputs.contentEncoding ∈ ["plain", "gzip", "flate"]
  level : (Log.Severity.ofName? configuration.log.level).isSome = true
  format : (Log.Format.ofName? configuration.log.format).isSome = true

variable {configuration : Configuration}

theorem Settled.filled_of_listed (settled : configuration.Settled) (setting : Setting)
    (listed : setting ∈ Setting.defaulted) : configuration.text setting ≠ "" :=
  settled.filled ((default_ne_empty_iff setting _).mpr listed)

theorem Settled.chosen (settled : configuration.Settled) {setting : Setting}
    (choice : setting = .contentType ∨ setting = .contentEncoding) :
    configuration.text setting ∈ setting.choices := by
  have accepted := settled.accepted setting
  have listed : setting ∈ Setting.defaulted := by
    rcases choice with rfl | rfl
    · decide
    · decide
  have filled := settled.filled_of_listed setting listed
  by_contra unlisted
  rcases choice with rfl | rfl
  · simp [Setting.error?, filled, unlisted] at accepted
  · simp [Setting.error?, filled, unlisted] at accepted

theorem Settled.wellFormed (settled : configuration.Settled) : configuration.WellFormed where
  chainId := fun _ => settled.chainId_range
  dataDir := settled.filled_of_listed .dataDir (by decide)
  preflightDir := settled.filled_of_listed .preflightDir (by decide)
  inputsDir := settled.filled_of_listed .inputsDir (by decide)
  contentType := settled.chosen (Or.inl rfl)
  contentEncoding := settled.chosen (Or.inr rfl)
  level := settled.log_named.1
  format := settled.log_named.2

theorem find?_toTree (configuration : Configuration) (setting : Setting) :
    configuration.toTree.find? setting.path = some (configuration.leaf setting) := by
  rw [toTree_eq, Setting.path_eq]
  cases setting <;> rfl

theorem WellFormed.chainId_kept (wellFormed : configuration.WellFormed) {id : UInt64}
    (set : configuration.chain.id = some id) :
    ∃ value : Int64, configuration.toTree.find? Setting.chainId.path = some (.int value) ∧
      value.toInt = id.toNat := by
  obtain ⟨_, bounded⟩ := wellFormed.chainId id set
  refine ⟨id.toInt64, ?_, toInt_toInt64 (by omega)⟩
  rw [find?_toTree]
  simp only [leaf, set]

theorem WellFormed.log_adopted (wellFormed : configuration.WellFormed) :
    ∃ severity format, Log.Severity.ofName? configuration.log.level = some severity ∧
      Log.Format.ofName? configuration.log.format = some format ∧
      ∀ session : Session, session.adopt configuration.log.level configuration.log.format
        = { session with threshold := severity, format := format } := by
  obtain ⟨severity, level⟩ := Option.isSome_iff_exists.mp wellFormed.level
  obtain ⟨format, named⟩ := Option.isSome_iff_exists.mp wellFormed.format
  refine ⟨severity, format, level, named, ?_⟩
  intro session
  rw [Session.adopt, level, named]
  rfl

/-- A loaded configuration is well formed, so its chain identifier is printed as the number it is
and its log is the one it names. Defaults change no text of any configuration that is not empty,
touch neither the chain nor the S3 store, leave no setting with a default empty, and change nothing
when they are filled in again. -/
theorem load_complete :
    (∀ layer configuration, load layer = .ok configuration →
      configuration.WellFormed ∧
        (∀ id, configuration.chain.id = some id → ∃ value : Int64,
          configuration.toTree.find? Setting.chainId.path = some (.int value) ∧
            value.toInt = id.toNat) ∧
        ∃ severity format, Log.Severity.ofName? configuration.log.level = some severity ∧
          Log.Format.ofName? configuration.log.format = some format ∧
          ∀ session : Session, session.adopt configuration.log.level configuration.log.format
            = { session with threshold := severity, format := format }) ∧
      ∀ configuration : Configuration,
        (∀ setting, configuration.text setting ≠ "" →
          configuration.withDefaults.text setting = configuration.text setting) ∧
        configuration.withDefaults.chain = configuration.chain ∧
        configuration.withDefaults.inputs.s3 = configuration.inputs.s3 ∧
        (∀ setting ∈ Setting.defaulted, configuration.withDefaults.text setting ≠ "") ∧
        configuration.withDefaults.withDefaults = configuration.withDefaults := by
  constructor
  · intro layer configuration loaded
    have wellFormed := (settled_of_load loaded).wellFormed
    exact ⟨wellFormed, fun id set => wellFormed.chainId_kept set, wellFormed.log_adopted⟩
  · intro configuration
    refine ⟨fun setting => text_withDefaults_of_filled, rfl, rfl, ?_,
      withDefaults_withDefaults configuration⟩
    intro setting listed
    exact text_withDefaults_ne_empty configuration listed

theorem load_complete_largest_chainId :
    let layer := Layer.ofList [(.chainId, "09223372036854775807"), (.logLevel, "warn"),
      (.dataDir, "//")]
    let bare : Configuration :=
      { chain.id := some 9223372036854775807, dataDir := "//", log.level := "warn" }
    load layer = .ok bare.withDefaults ∧ bare.withDefaults.WellFormed ∧
      bare.withDefaults.preflightDir = "//preflight" ∧
      (∃ value : Int64,
        bare.withDefaults.toTree.find? Setting.chainId.path = some (.int value) ∧
          value.toInt = 9223372036854775807) ∧
      bare.withDefaults.text .logLevel = "warn" ∧ bare.withDefaults.text .logFormat ≠ "" := by
  intro layer bare
  have loaded : load layer = .ok bare.withDefaults := by decide +kernel
  obtain ⟨loads, defaults⟩ := load_complete
  obtain ⟨wellFormed, kept, _⟩ := loads layer _ loaded
  obtain ⟨unchanged, _, _, filled, _⟩ := defaults bare
  exact ⟨loaded, wellFormed, by decide, kept _ rfl, unchanged .logLevel (by decide),
    filled .logFormat (by decide)⟩

end Configuration

end ProverInput
