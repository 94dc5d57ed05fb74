import ProverInput.Configuration.Loading

/-!
Settings that differ in the choice of the log only. They are rejected for the same cause, and
loaded to configurations that differ in the choice of the log only.
-/

namespace ProverInput

namespace Setting

def isLog : Setting → Bool
  | .logLevel | .logFormat => true
  | _ => false

end Setting

namespace Layer

def Names {α : Type} (layer : Layer) (setting : Setting) (meaning : String → Option α) : Prop :=
  layer.given? setting = .ok none ∨ ∃ text, layer.given? setting = .ok (some text) ∧
    (text = "" ∨ (meaning text).isSome = true)

structure ChoosesLog (layer : Layer) : Prop where
  level : layer.Names .logLevel Log.Severity.ofName?
  format : layer.Names .logFormat Log.Format.ofName?

/-- The layers give the same for every setting but those of the log. -/
structure SameButLog (layer other : Layer) : Prop where
  same : ∀ setting : Setting, setting.isLog = false → layer.given? setting = other.given? setting
  chooses : layer.ChoosesLog
  otherChooses : other.ChoosesLog

variable {layer other : Layer}

theorem ChoosesLog.given? (chooses : layer.ChoosesLog) {setting : Setting}
    (log : setting.isLog = true) :
    layer.given? setting = .ok none ∨
      ∃ text, layer.given? setting = .ok (some text) ∧ setting.error? text = none := by
  cases setting with
  | logLevel =>
      rcases chooses.level with absent | ⟨text, given, named⟩
      · exact Or.inl absent
      · exact Or.inr ⟨text, given, if_pos named⟩
  | logFormat =>
      rcases chooses.format with absent | ⟨text, given, named⟩
      · exact Or.inl absent
      · exact Or.inr ⟨text, given, if_pos named⟩
  | _ => contradiction

end Layer

namespace Configuration

def withoutLog (configuration : Configuration) : Configuration :=
  { configuration with log := {} }

variable {layer other : Layer} {configuration otherConfiguration : Configuration}

theorem withoutLog_assign_of_isLog {setting : Setting} (log : setting.isLog = true)
    (configuration : Configuration) (text : String) :
    (configuration.assign setting text).withoutLog = configuration.withoutLog := by
  cases setting with
  | logLevel | logFormat => rfl
  | _ => contradiction

theorem withoutLog_assign {setting : Setting} (notLog : setting.isLog = false)
    (configuration : Configuration) (text : String) :
    (configuration.assign setting text).withoutLog =
      configuration.withoutLog.assign setting text := by
  cases setting with
  | logLevel | logFormat => contradiction
  | _ => rfl

theorem read_of_isLog (chooses : layer.ChoosesLog) {setting : Setting}
    (log : setting.isLog = true) (configuration : Configuration) :
    ∃ after, read layer configuration setting = .ok after ∧
      after.withoutLog = configuration.withoutLog := by
  rw [read]
  rcases chooses.given? log with absent | ⟨text, given, accepted⟩
  · rw [absent]
    exact ⟨configuration, rfl, rfl⟩
  · simp only [given, accepted]
    exact ⟨_, rfl, withoutLog_assign_of_isLog log configuration text⟩

theorem read_withoutLog (alike : layer.SameButLog other)
    (same : configuration.withoutLog = otherConfiguration.withoutLog) (setting : Setting) :
    (read layer configuration setting).map withoutLog =
      (read other otherConfiguration setting).map withoutLog := by
  cases log : setting.isLog with
  | true =>
      obtain ⟨after, taken, kept⟩ := read_of_isLog alike.chooses log configuration
      obtain ⟨otherAfter, otherTaken, otherKept⟩ :=
        read_of_isLog alike.otherChooses log otherConfiguration
      rw [taken, otherTaken, Except.map, Except.map, kept, otherKept, same]
  | false =>
      rw [read, read, alike.same setting log]
      cases other.given? setting with
      | error cause => rfl
      | ok given =>
          cases given with
          | none => exact congrArg Except.ok same
          | some text =>
              cases wrong : setting.error? text with
              | some cause => simp only [wrong]
              | none =>
                  simp only [wrong, Except.map, withoutLog_assign log, same]

theorem foldlM_read_withoutLog (alike : layer.SameButLog other) (settings : List Setting)
    (same : configuration.withoutLog = otherConfiguration.withoutLog) :
    (settings.foldlM (read layer) configuration).map withoutLog =
      (settings.foldlM (read other) otherConfiguration).map withoutLog := by
  induction settings generalizing configuration otherConfiguration with
  | nil => exact congrArg Except.ok same
  | cons setting rest ih =>
      have step := read_withoutLog alike same setting
      rw [List.foldlM_cons, List.foldlM_cons]
      cases taken : read layer configuration setting with
      | error cause =>
          cases otherTaken : read other otherConfiguration setting with
          | error otherCause =>
              rw [taken, otherTaken] at step
              exact step
          | ok otherAfter => simp [taken, otherTaken, Except.map] at step
      | ok after =>
          cases otherTaken : read other otherConfiguration setting with
          | error otherCause => simp [taken, otherTaken, Except.map] at step
          | ok otherAfter =>
              rw [taken, otherTaken] at step
              exact ih (Except.ok.inj step)

theorem load_withoutLog_eq (layer : Layer) :
    (load layer).map withoutLog =
      ((ofLayer layer).map withoutLog).map fun bare => bare.withDefaults.withoutLog := by
  rw [load]
  cases ofLayer layer with
  | error cause => rfl
  | ok bare => rfl

theorem load_withoutLog (alike : layer.SameButLog other) :
    (load layer).map withoutLog = (load other).map withoutLog := by
  have taken : (ofLayer layer).map withoutLog = (ofLayer other).map withoutLog :=
    foldlM_read_withoutLog alike Setting.checkOrder rfl
  rw [load_withoutLog_eq, load_withoutLog_eq, taken]

end Configuration

end ProverInput
