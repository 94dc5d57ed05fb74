import ProverInput.CommandLine.Program
import ProverInput.Proofs.Configuration.Loading

/-!
Layering of settings. The text of a flag counts before the text of the environment, even when it is
empty; an empty text leaves its setting at the default.
-/

namespace ProverInput.CommandLine

/-- The text that counts for a setting: the flag's if it is given, else the environment's. -/
def effective (surroundings : Surroundings) (given : List (Setting × String))
    (setting : Setting) : Option String :=
  (given.lookup setting).or (surroundings.environment setting.envVar)

def chosen (surroundings : Surroundings) (given : List (Setting × String))
    (setting : Setting) : Option String :=
  (effective surroundings given setting).filter (· ≠ "")

variable {surroundings elsewhere : Surroundings} {given others : List (Setting × String)}
  {configuration other : Configuration}

theorem gives_settings_reverse (surroundings : Surroundings) (given : List (Setting × String)) :
    (settings surroundings given).Gives fun setting =>
      (given.reverse.lookup setting).or (surroundings.environment setting.envVar) :=
  (Layer.gives_ofEnvironment surroundings.environment).overlay (Layer.gives_ofList given)

theorem gives_settings (surroundings : Surroundings) (once : (given.map (·.1)).Nodup) :
    (settings surroundings given).Gives (effective surroundings given) := by
  have layered := gives_settings_reverse surroundings given
  simp only [Layer.lookup_reverse once] at layered
  exact layered

theorem chosen_getD (surroundings : Surroundings) (given : List (Setting × String))
    (setting : Setting) (fallback : String) :
    (chosen surroundings given setting).getD fallback
      = Text.orElse ((effective surroundings given setting).getD "") fallback := by
  rw [chosen, Text.orElse]
  cases effective surroundings given setting with
  | none => rfl
  | some value =>
      by_cases empty : value = ""
      · simp [Option.filter, empty]
      · simp [Option.filter, empty]

theorem dataDir_of_load (once : (given.map (·.1)).Nodup)
    (loaded : Configuration.load (settings surroundings given) = .ok configuration) :
    configuration.dataDir
      = Text.orElse ((effective surroundings given .dataDir).getD "") "data" :=
  ((Configuration.load_eq_ok_iff_of_gives (gives_settings surroundings once) _).mp loaded).2
    .dataDir

theorem text_of_load (once : (given.map (·.1)).Nodup)
    (loaded : Configuration.load (settings surroundings given) = .ok configuration)
    {setting : Setting} (notChainId : setting ≠ .chainId) :
    configuration.text setting
      = (chosen surroundings given setting).getD (setting.default configuration.dataDir) := by
  obtain ⟨_, texts⟩ :=
    (Configuration.load_eq_ok_iff_of_gives (gives_settings surroundings once) _).mp loaded
  rw [texts setting, Setting.canonical_of_ne notChainId, dataDir_of_load once loaded, chosen_getD]

theorem chainId_of_load (once : (given.map (·.1)).Nodup)
    (loaded : Configuration.load (settings surroundings given) = .ok configuration) :
    (chosen surroundings given .chainId = none → configuration.chain.id = none) ∧
      ∀ text, chosen surroundings given .chainId = some text →
        (∀ c ∈ text.toList, c.isDigit = true) ∧
          configuration.chain.id.map UInt64.toNat
            = some (Nat.ofDigits 10 (text.toList.reverse.map fun c => c.toNat - '0'.toNat)) := by
  obtain ⟨accepted, texts⟩ :=
    (Configuration.load_eq_ok_iff_of_gives (gives_settings surroundings once) _).mp loaded
  have kept := (texts .chainId).trans (Text.orElse_empty _)
  have id := Configuration.chainId_of_canonical kept
  rw [chosen]
  cases text : effective surroundings given .chainId with
  | none =>
      rw [text, Option.getD_none, if_pos rfl] at id
      simp [id]
  | some value =>
      rw [text, Option.getD_some] at id
      by_cases empty : value = ""
      · rw [if_pos empty] at id
        simp [Option.filter, empty, id]
      · obtain ⟨word, read, _⟩ :=
          Setting.chainId_of_accepted (accepted .chainId value text) empty
        obtain ⟨decimal, denoted⟩ := Numeral.readWord_ok read
        have number : (UInt64.ofNat (Numeral.value 10 value.toList)).toNat
            = Nat.ofDigits 10 (value.toList.reverse.map fun c => c.toNat - '0'.toNat) := by
          rw [← denoted, UInt64.ofNat_toNat, denoted, Numeral.value_eq_ofDigits decimal]
        rw [if_neg empty] at id
        have filtered : (some value).filter (· ≠ "") = some value := by
          simp [Option.filter, empty]
        rw [filtered, id, Option.map_some, number]
        refine ⟨by simp, ?_⟩
        rintro _ ⟨⟩
        exact ⟨fun c member => Numeral.isDigit_of_decimal (decimal c member), rfl⟩

theorem text_congr (once : (given.map (·.1)).Nodup) (onceElsewhere : (others.map (·.1)).Nodup)
    (loaded : Configuration.load (settings surroundings given) = .ok configuration)
    (loadedElsewhere : Configuration.load (settings elsewhere others) = .ok other)
    {setting : Setting}
    (same : effective surroundings given setting = effective elsewhere others setting)
    (sameBase : setting = .preflightDir ∨ setting = .inputsDir →
      effective surroundings given .dataDir = effective elsewhere others .dataDir) :
    configuration.text setting = other.text setting := by
  obtain ⟨_, texts⟩ :=
    (Configuration.load_eq_ok_iff_of_gives (gives_settings surroundings once) _).mp loaded
  obtain ⟨_, otherTexts⟩ := (Configuration.load_eq_ok_iff_of_gives
    (gives_settings elsewhere onceElsewhere) _).mp loadedElsewhere
  rw [texts setting, otherTexts setting, same]
  cases setting with
  | preflightDir => rw [sameBase (Or.inl rfl)]
  | inputsDir => rw [sameBase (Or.inr rfl)]
  | _ => rfl

/-- The settings of a run hold the text that counts for each setting and nothing for the others. A
configuration loaded from them has that text in the field of the setting, or the documented default
where the text is missing or empty, and no other field depends on it. -/
theorem settings_layered (surroundings : Surroundings) (given : List (Setting × String))
    (once : (given.map (·.1)).Nodup) :
    (∀ setting : Setting,
      (settings surroundings given).contains setting.key
          = (effective surroundings given setting).isSome ∧
        (settings surroundings given).get? setting.key
          = .ok (effective surroundings given setting)) ∧
      ∀ configuration, Configuration.load (settings surroundings given) = .ok configuration →
        (∀ setting, setting ≠ .chainId → configuration.text setting
          = (chosen surroundings given setting).getD (setting.default configuration.dataDir)) ∧
        (chosen surroundings given .chainId = none → configuration.chain.id = none) ∧
        (∀ text, chosen surroundings given .chainId = some text →
          (∀ c ∈ text.toList, c.isDigit = true) ∧
            configuration.chain.id.map UInt64.toNat
              = some (Nat.ofDigits 10 (text.toList.reverse.map fun c => c.toNat - '0'.toNat))) ∧
        ∀ elsewhere others other, (others.map (·.1)).Nodup →
          Configuration.load (settings elsewhere others) = .ok other →
          ∀ setting,
            effective surroundings given setting = effective elsewhere others setting →
            (setting = .preflightDir ∨ setting = .inputsDir →
              effective surroundings given .dataDir = effective elsewhere others .dataDir) →
            configuration.text setting = other.text setting := by
  have gives := gives_settings surroundings once
  refine ⟨fun setting => ⟨gives.contains setting, gives.get? setting⟩, ?_⟩
  intro configuration loaded
  obtain ⟨unset, number⟩ := chainId_of_load once loaded
  refine ⟨fun setting notChainId => text_of_load once loaded notChainId, unset, number, ?_⟩
  intro elsewhere others other onceElsewhere loadedElsewhere setting same sameBase
  exact text_congr once onceElsewhere loaded loadedElsewhere same sameBase

theorem settings_layered_empty_flag :
    let environment := fun name =>
      if name = "ZKPIG_LOG_LEVEL" then some "debug"
      else if name = "ZKPIG_CHAIN_ID" then some "0042" else none
    let given := [(Setting.logLevel, ""), (Setting.dataDir, "/srv//zk/")]
    let layer := settings { environment } given
    (given.map (·.1)).Nodup ∧ layer.get? "log.level" = .ok (some "") ∧
      ∃ configuration, Configuration.load layer = .ok configuration ∧
        configuration.log.level = "info" ∧ configuration.preflightDir = "/srv/zk/preflight" ∧
        configuration.chain.id.map UInt64.toNat = some 42 := by
  intro environment given layer
  have once : (given.map (·.1)).Nodup := by decide
  obtain ⟨held, fields⟩ := settings_layered { environment } given once
  have loads : Configuration.load layer = .ok
      { chain.id := some 42
        dataDir := "/srv//zk/"
        preflightDir := "/srv/zk/preflight"
        inputs := ⟨"application/json", "plain", "/srv/zk/inputs", {}⟩
        log := ⟨"info", "text"⟩ } := by decide +kernel
  obtain ⟨texts, _, number, _⟩ := fields _ loads
  refine ⟨once, (held .logLevel).2, _, loads, texts .logLevel (by decide), ?_, ?_⟩
  · exact texts .preflightDir (by decide)
  · exact (number "0042" (by decide)).2

end ProverInput.CommandLine
