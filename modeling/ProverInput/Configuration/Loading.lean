import ProverInput.Configuration.Basic
import ProverInput.Layer

/-!
Reading a configuration out of a layer of settings. The settings are checked one after the other,
and the first that is wrong is reported.
-/

namespace ProverInput

namespace Setting

/-- What is wrong with a text given for a setting. An empty text leaves a setting unset, which only
the data directory does not allow. -/
def error? (setting : Setting) (value : String) : Option ConfigError :=
  match setting with
  | .chainId =>
    if value = "" then none
    else match Numeral.readWord 10 value.toList with
      | .ok id => if id = 0 ∨ Nat.pow 2 63 ≤ id.toNat then some .chainIdRejected else none
      | .error _ => some .chainIdRejected
  | .dataDir => if value = "" then some .dataDirEmpty else none
  | .contentType | .contentEncoding =>
    if value = "" ∨ value ∈ setting.choices then none else some (.unsupported setting value)
  | .logLevel =>
    if value = "" ∨ (Log.Severity.ofName? value).isSome then none
    else some (.unsupported setting value)
  | .logFormat =>
    if value = "" ∨ (Log.Format.ofName? value).isSome then none
    else some (.unsupported setting value)
  | _ => none

end Setting

namespace Layer

/-- The text that a layer gives for a setting. A null is given as the empty text. -/
def given? (layer : Layer) (setting : Setting) : Except ConfigError (Option String) :=
  match layer.tree.find? setting.path with
  | none => .ok none
  | some .null => .ok (some "")
  | some (.text value) => .ok (some value)
  | some _ => .error (.notText setting.path)

end Layer

namespace Configuration

def read (layer : Layer) (configuration : Configuration) (setting : Setting) :
    Except ConfigError Configuration :=
  match layer.given? setting with
  | .error cause => .error cause
  | .ok none => .ok configuration
  | .ok (some value) =>
    match setting.error? value with
    | some cause => .error cause
    | none => .ok (configuration.assign setting value)

def ofLayer (layer : Layer) : Except ConfigError Configuration :=
  Setting.checkOrder.foldlM (read layer) {}

def load (layer : Layer) : Except ConfigError Configuration :=
  match ofLayer layer with
  | .error cause => .error cause
  | .ok configuration => .ok configuration.withDefaults

end Configuration

end ProverInput
