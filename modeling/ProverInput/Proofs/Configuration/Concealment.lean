import Mathlib.Tactic.FinCases
import ProverInput.Proofs.Configuration.Loading
import ProverInput.Proofs.FieldGroup

/-!
Concealing secrets. A concealed text shows only whether it is empty, and everything that checks
settings gets along with concealed ones.
-/

namespace ProverInput

namespace Setting

def isSecret : Setting → Bool
  | .s3AccessKey | .s3SecretKey => true
  | _ => false

def masked (text : String) : String :=
  if text = "" then "" else "*"

def conceal (setting : Setting) (text : String) : String :=
  if setting.isSecret then masked text else text

theorem error?_conceal (setting : Setting) (text : String) :
    setting.error? (setting.conceal text) = setting.error? text := by
  cases setting <;> rfl

theorem masked_eq_empty_iff (text : String) : masked text = "" ↔ text = "" := by
  rw [masked]
  split
  · simp_all
  · simp_all

end Setting

namespace Configuration

def conceal (configuration : Configuration) : Configuration :=
  let credentials := configuration.inputs.s3.credentials
  { configuration with
    inputs.s3.credentials :=
      ⟨Setting.masked credentials.accessKey, Setting.masked credentials.secretKey⟩ }

theorem conceal_assign (configuration : Configuration) (setting : Setting) (text : String) :
    (configuration.assign setting text).conceal
      = configuration.conceal.assign setting (setting.conceal text) := by
  cases setting <;> rfl

theorem conceal_withDefaults (configuration : Configuration) :
    configuration.withDefaults.conceal = configuration.conceal.withDefaults := rfl

def readGiven (given : Setting → Option String) (configuration : Configuration)
    (setting : Setting) : Except ConfigError Configuration :=
  match given setting with
  | none => .ok configuration
  | some value =>
    match setting.error? value with
    | some cause => .error cause
    | none => .ok (configuration.assign setting value)

theorem read_of_gives {layer : Layer} {given : Setting → Option String}
    (gives : layer.Gives given) : read layer = readGiven given := by
  funext configuration setting
  rw [read, readGiven, gives.given?]
  cases given setting <;> rfl

theorem foldlM_readGiven_conceal (given : Setting → Option String) (settings : List Setting)
    (configuration : Configuration) :
    (settings.foldlM (readGiven given) configuration).map conceal
      = settings.foldlM
          (readGiven fun setting => (given setting).map setting.conceal) configuration.conceal := by
  induction settings generalizing configuration with
  | nil => rfl
  | cons setting rest ih =>
      rw [List.foldlM_cons, List.foldlM_cons, readGiven, readGiven]
      cases text : given setting with
      | none => exact ih configuration
      | some value =>
          simp only [Option.map_some, Setting.error?_conceal]
          cases setting.error? value with
          | some cause => rfl
          | none =>
              rw [← conceal_assign]
              exact ih (configuration.assign setting value)

/-- Layers that differ only in secrets are loaded alike. -/
theorem load_conceal {layer other : Layer} {given otherGiven : Setting → Option String}
    (gives : layer.Gives given) (otherGives : other.Gives otherGiven)
    (alike : ∀ setting : Setting,
      (given setting).map setting.conceal = (otherGiven setting).map setting.conceal) :
    (load layer).map conceal = (load other).map conceal := by
  have read : (ofLayer layer).map conceal = (ofLayer other).map conceal := by
    rw [ofLayer, ofLayer, read_of_gives gives, read_of_gives otherGives,
      foldlM_readGiven_conceal, foldlM_readGiven_conceal, funext alike]
  rw [load, load]
  cases left : ofLayer layer with
  | error cause =>
      cases right : ofLayer other with
      | error otherCause =>
          rw [left, right] at read
          exact read
      | ok configuration => simp [left, right, Except.map] at read
  | ok configuration =>
      cases right : ofLayer other with
      | error cause => simp [left, right, Except.map] at read
      | ok otherConfiguration =>
          simp only [left, right, Except.map, Except.ok.injEq] at read
          simp only [Except.map, conceal_withDefaults, read]

end Configuration

namespace FieldGroup

theorem missing?_conceal (configuration : Configuration) :
    s3.missing? configuration.conceal = s3.missing? configuration := by
  apply missing?_congr
  intro field member
  have masked (text : String) : decide (Setting.masked text = "") = decide (text = "") :=
    decide_eq_decide.mpr (Setting.masked_eq_empty_iff text)
  fin_cases member
  · rfl
  · rfl
  · exact masked configuration.inputs.s3.credentials.accessKey
  · exact masked configuration.inputs.s3.credentials.secretKey
  · rfl

end FieldGroup

end ProverInput
