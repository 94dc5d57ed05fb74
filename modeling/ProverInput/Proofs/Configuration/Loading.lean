import ProverInput.Proofs.Configuration.Settings
import ProverInput.Proofs.Text.Numeral

/-!
What loading makes of a layer. The texts of a configuration determine it; loading accepts a layer
exactly when every text that it gives is accepted, and gives each setting its own text or default.
-/

namespace ProverInput

theorem Text.orElse_empty (text : String) : orElse text "" = text := by
  rw [orElse]
  split
  · rename_i empty
    exact empty.symm
  · rfl

namespace Setting

def canonical (setting : Setting) (value : String) : String :=
  match setting with
  | .chainId =>
    if value = "" then ""
    else String.ofList
      (Numeral.write 10 (UInt64.ofNat (Numeral.value 10 value.toList)).toNat)
  | _ => value

/-- The documented default of a setting; it may depend on the data directory. -/
def default (dataDir : String) : Setting → String
  | .dataDir => "data"
  | .preflightDir => Configuration.childDir dataDir "preflight"
  | .inputsDir => Configuration.childDir dataDir "inputs"
  | .contentType => "application/json"
  | .contentEncoding => "plain"
  | .logLevel => "info"
  | .logFormat => "text"
  | _ => ""

theorem canonical_empty (setting : Setting) : setting.canonical "" = "" := by
  cases setting <;> rfl

theorem canonical_of_ne {setting : Setting} (different : setting ≠ .chainId) (value : String) :
    setting.canonical value = value := by
  cases setting with
  | chainId => contradiction
  | _ => rfl

theorem chainId_of_accepted {value : String} (accepted : error? .chainId value = none)
    (nonempty : value ≠ "") :
    ∃ id, Numeral.readWord 10 value.toList = .ok id ∧ id ≠ 0 ∧ id.toNat < 2 ^ 63 := by
  simp only [error?, nonempty, if_false] at accepted
  split at accepted
  · rename_i id read
    split at accepted
    · contradiction
    · rename_i range
      rw [not_or] at range
      exact ⟨id, read, range.1, Nat.lt_of_not_le range.2⟩
  · contradiction

theorem mem_checkOrder (setting : Setting) : setting ∈ checkOrder := by
  cases setting <;> decide

end Setting

namespace Configuration

theorem write_toString_ne_empty (number : Nat) :
    String.ofList (Numeral.write 10 number) ≠ "" := by
  intro empty
  exact Numeral.write_ne_nil (String.ofList_eq_empty_iff.mp empty)

theorem write_injective {number other : Nat}
    (same : Numeral.write 10 number = Numeral.write 10 other) : number = other := by
  have left := (Numeral.value_write (by decide : 1 < 10) (by decide) number).1
  have right := (Numeral.value_write (by decide : 1 < 10) (by decide) other).1
  rw [← left, ← right, same]

theorem chainId_of_text {configuration other : Configuration}
    (same : configuration.text .chainId = other.text .chainId) :
    configuration.chain.id = other.chain.id := by
  simp only [text] at same
  cases left : configuration.chain.id with
  | none =>
      cases right : other.chain.id with
      | none => rfl
      | some id =>
          simp only [left, right] at same
          exact absurd same.symm (write_toString_ne_empty _)
  | some id =>
      cases right : other.chain.id with
      | none =>
          simp only [left, right] at same
          exact absurd same (write_toString_ne_empty _)
      | some otherId =>
          simp only [left, right] at same
          rw [UInt64.toNat_inj.mp (write_injective (String.ofList_injective same))]

theorem ext_text {configuration other : Configuration}
    (same : ∀ setting, configuration.text setting = other.text setting) :
    configuration = other := by
  have id := chainId_of_text (same .chainId)
  have rpcUrl := same .chainRpcUrl
  have dataDir := same .dataDir
  have preflightDir := same .preflightDir
  have inputsDir := same .inputsDir
  have contentType := same .contentType
  have contentEncoding := same .contentEncoding
  have bucket := same .s3Bucket
  have keyPrefix := same .s3KeyPrefix
  have region := same .s3Region
  have accessKey := same .s3AccessKey
  have secretKey := same .s3SecretKey
  have level := same .logLevel
  have format := same .logFormat
  rcases configuration with
    ⟨⟨_, _⟩, _, _, ⟨_, _, _, ⟨_, _, _, ⟨_, _⟩⟩⟩, ⟨_, _⟩⟩
  rcases other with ⟨⟨_, _⟩, _, _, ⟨_, _, _, ⟨_, _, _, ⟨_, _⟩⟩⟩, ⟨_, _⟩⟩
  simp only [text] at *
  subst_vars
  rfl

theorem text_assign_self (configuration : Configuration) (setting : Setting) (value : String) :
    (configuration.assign setting value).text setting = setting.canonical value := by
  cases setting with
  | chainId =>
      by_cases empty : value = ""
      · simp [assign, text, Setting.canonical, empty]
      · simp [assign, text, Setting.canonical, empty]
  | _ => rfl

theorem text_assign_of_ne {setting other : Setting} (different : other ≠ setting)
    (configuration : Configuration) (value : String) :
    (configuration.assign setting value).text other = configuration.text other := by
  cases setting <;> cases other <;> first | rfl | exact absurd rfl different

theorem chainId_of_canonical {configuration : Configuration} {value : String}
    (same : configuration.text .chainId = Setting.canonical .chainId value) :
    configuration.chain.id
      = if value = "" then none else some (UInt64.ofNat (Numeral.value 10 value.toList)) :=
  chainId_of_text (same.trans (text_assign_self {} .chainId value).symm)

theorem text_foldl_assign (value : Setting → String) (settings : List Setting)
    (configuration : Configuration) (setting : Setting) :
    (settings.foldl (fun configuration setting => configuration.assign setting (value setting))
        configuration).text setting
      = if setting ∈ settings then setting.canonical (value setting)
        else configuration.text setting := by
  induction settings generalizing configuration with
  | nil => simp
  | cons head rest ih =>
      rw [List.foldl_cons, ih]
      by_cases same : setting = head
      · subst same
        simp [text_assign_self]
      · simp [same, text_assign_of_ne same]

theorem text_empty (setting : Setting) : ({} : Configuration).text setting = "" := by
  cases setting <;> rfl

def Takes (layer : Layer) (before after : Configuration) (setting : Setting) : Prop :=
  match layer.given? setting with
  | .error _ => False
  | .ok none => after.text setting = before.text setting
  | .ok (some value) =>
    setting.error? value = none ∧ after.text setting = setting.canonical value

theorem Takes.congr {layer : Layer} {before other after : Configuration} {setting : Setting}
    (same : before.text setting = other.text setting) :
    Takes layer before after setting ↔ Takes layer other after setting := by
  rw [Takes, Takes, same]

theorem foldlM_read_iff (layer : Layer) {settings : List Setting} (nodup : settings.Nodup)
    (before after : Configuration) :
    settings.foldlM (read layer) before = .ok after ↔
      ∀ setting, if setting ∈ settings then Takes layer before after setting
        else after.text setting = before.text setting := by
  -- the settings that are read first keep their texts, since none is read twice
  induction settings generalizing before with
  | nil =>
      constructor
      · intro same
        cases same
        simp
      · intro same
        have equal : before = after := ext_text fun setting => by simpa using (same setting).symm
        exact congrArg Except.ok equal
  | cons head rest ih =>
      obtain ⟨fresh, nodupRest⟩ := List.nodup_cons.mp nodup
      rw [List.foldlM_cons, read]
      cases given : layer.given? head with
      | error cause =>
          constructor
          · intro impossible
            cases impossible
          · intro taken
            have impossible := taken head
            simp [Takes, given] at impossible
      | ok held =>
          cases held with
          | none =>
              refine (ih nodupRest before).trans (forall_congr' fun setting => ?_)
              by_cases same : setting = head
              · subst same
                simp [fresh, Takes, given]
              · simp [same]
          | some value =>
              cases wrong : head.error? value with
              | some cause =>
                  constructor
                  · intro impossible
                    simp [wrong] at impossible
                    cases impossible
                  · intro taken
                    have impossible := taken head
                    simp [Takes, given, wrong] at impossible
              | none =>
                  simp only [wrong]
                  refine (ih nodupRest (before.assign head value)).trans
                    (forall_congr' fun setting => ?_)
                  by_cases same : setting = head
                  · subst same
                    simp [fresh, Takes, given, wrong, text_assign_self]
                  · have unchanged := text_assign_of_ne same before value
                    simp only [List.mem_cons, same, false_or, unchanged]
                    rw [Takes.congr unchanged]

/-- Loading succeeds exactly on layers whose texts are all accepted, and keeps each text. -/
theorem ofLayer_eq_ok_iff (layer : Layer) (configuration : Configuration) :
    ofLayer layer = .ok configuration ↔ ∀ setting, Takes layer {} configuration setting := by
  rw [ofLayer, foldlM_read_iff layer (by decide)]
  simp only [Setting.mem_checkOrder, if_true]

theorem text_withDefaults (configuration : Configuration) (setting : Setting) :
    configuration.withDefaults.text setting
      = Text.orElse (configuration.text setting)
          (setting.default (Text.orElse configuration.dataDir "data")) := by
  cases setting with
  | dataDir | preflightDir | inputsDir | contentType | contentEncoding | logLevel | logFormat => rfl
  | _ => exact (Text.orElse_empty _).symm

theorem takes_iff_of_gives {layer : Layer} {given : Setting → Option String}
    (gives : layer.Gives given) (configuration : Configuration) (setting : Setting) :
    Takes layer {} configuration setting ↔
      (∀ value, given setting = some value → setting.error? value = none) ∧
        configuration.text setting = setting.canonical ((given setting).getD "") := by
  rw [Takes, gives.given?]
  cases given setting with
  | none => simp [text_empty, Setting.canonical_empty]
  | some value => simp

theorem load_eq_ok_iff (layer : Layer) (configuration : Configuration) :
    load layer = .ok configuration ↔
      ∃ bare, ofLayer layer = .ok bare ∧ bare.withDefaults = configuration := by
  rw [load]
  cases ofLayer layer with
  | error cause => simp
  | ok bare => simp

theorem load_eq_ok_iff_of_gives {layer : Layer} {given : Setting → Option String}
    (gives : layer.Gives given) (configuration : Configuration) :
    load layer = .ok configuration ↔
      (∀ setting value, given setting = some value → setting.error? value = none) ∧
        ∀ setting, configuration.text setting
          = Text.orElse (setting.canonical ((given setting).getD ""))
              (setting.default (Text.orElse ((given .dataDir).getD "") "data")) := by
  simp only [load_eq_ok_iff, ofLayer_eq_ok_iff, takes_iff_of_gives gives]
  constructor
  · rintro ⟨bare, taken, rfl⟩
    refine ⟨fun setting => (taken setting).1, ?_⟩
    intro setting
    have dataDir : bare.dataDir = (given .dataDir).getD "" := (taken .dataDir).2
    rw [text_withDefaults, (taken setting).2, dataDir]
  · rintro ⟨accepted, texts⟩
    let bare := Setting.all.foldl (fun (configuration : Configuration) setting =>
      configuration.assign setting ((given setting).getD "")) {}
    have bareTexts (setting : Setting) :
        bare.text setting = setting.canonical ((given setting).getD "") := by
      rw [text_foldl_assign, if_pos (Setting.mem_all setting)]
    have dataDir : bare.dataDir = (given .dataDir).getD "" := bareTexts .dataDir
    refine ⟨bare, fun setting => ⟨accepted setting, bareTexts setting⟩, ext_text ?_⟩
    intro setting
    rw [text_withDefaults, bareTexts setting, dataDir, texts setting]

end Configuration

end ProverInput
