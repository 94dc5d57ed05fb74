import ProverInput.Setting

/-!
What can be wrong with settings, with the code, the text and the hint that report it.
-/

namespace ProverInput

inductive ConfigError where
  | notText (path : List String)
  | chainIdRejected
  | dataDirEmpty
  | unsupported (setting : Setting) (value : String)
  deriving DecidableEq, Repr

namespace ConfigError

def code : ConfigError → String
  | .notText _ => "E_CONFIG_TYPE"
  | _ => "E_CONFIG_VALUE"

def text : ConfigError → String
  | .notText path => "Expected string at config path " ++ Path.join path
  | .chainIdRejected => "chain.id must be a positive integer"
  | .dataDirEmpty => "data-dir cannot be empty"
  | .unsupported setting value =>
    setting.key ++ " has unsupported value '" ++ value ++ "'"

def hint : ConfigError → String
  | .notText _ => ""
  | .chainIdRejected => "For example: --chain-id 1"
  | .dataDirEmpty => "Provide a directory path or omit --data-dir to use the default"
  | .unsupported setting _ => "Use one of: " ++ ", ".intercalate setting.choices

end ConfigError

end ProverInput
