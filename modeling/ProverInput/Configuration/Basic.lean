import ProverInput.Configuration.Error
import ProverInput.Text.Numeral
import ProverInput.Text.Reported
import ProverInput.Tree.Basic

/-!
The configuration of the program. An empty text stands for a setting without a value; `withDefaults`
fills every setting that has a default.
-/

namespace ProverInput

structure Chain where
  id : Option UInt64 := none
  rpcUrl : String := ""
  deriving DecidableEq, Repr

structure Credentials where
  accessKey : String := ""
  secretKey : String := ""
  deriving DecidableEq, Repr

structure S3Store where
  bucket : String := ""
  keyPrefix : String := ""
  region : String := ""
  credentials : Credentials := {}
  deriving DecidableEq, Repr

structure InputStore where
  contentType : String := ""
  contentEncoding : String := ""
  dir : String := ""
  s3 : S3Store := {}
  deriving DecidableEq, Repr

structure LogChoice where
  level : String := ""
  format : String := ""
  deriving DecidableEq, Repr

structure Configuration where
  chain : Chain := {}
  dataDir : String := ""
  preflightDir : String := ""
  inputs : InputStore := {}
  log : LogChoice := {}
  deriving DecidableEq, Repr

namespace Configuration

instance : Inhabited Configuration := ⟨{}⟩

def text (configuration : Configuration) : Setting → String
  | .chainId => match configuration.chain.id with
    | some id => String.ofList (Numeral.write 10 id.toNat)
    | none => ""
  | .chainRpcUrl => configuration.chain.rpcUrl
  | .dataDir => configuration.dataDir
  | .preflightDir => configuration.preflightDir
  | .inputsDir => configuration.inputs.dir
  | .contentType => configuration.inputs.contentType
  | .contentEncoding => configuration.inputs.contentEncoding
  | .s3Bucket => configuration.inputs.s3.bucket
  | .s3KeyPrefix => configuration.inputs.s3.keyPrefix
  | .s3Region => configuration.inputs.s3.region
  | .s3AccessKey => configuration.inputs.s3.credentials.accessKey
  | .s3SecretKey => configuration.inputs.s3.credentials.secretKey
  | .logLevel => configuration.log.level
  | .logFormat => configuration.log.format

/-- Gives a setting its text without checking it. An empty text unsets the chain identifier. -/
def assign (configuration : Configuration) (setting : Setting) (text : String) : Configuration :=
  match setting with
  | .chainId =>
    let id := if text = "" then none else some (UInt64.ofNat (Numeral.value 10 text.toList))
    { configuration with chain.id := id }
  | .chainRpcUrl => { configuration with chain.rpcUrl := text }
  | .dataDir => { configuration with dataDir := text }
  | .preflightDir => { configuration with preflightDir := text }
  | .inputsDir => { configuration with inputs.dir := text }
  | .contentType => { configuration with inputs.contentType := text }
  | .contentEncoding => { configuration with inputs.contentEncoding := text }
  | .s3Bucket => { configuration with inputs.s3.bucket := text }
  | .s3KeyPrefix => { configuration with inputs.s3.keyPrefix := text }
  | .s3Region => { configuration with inputs.s3.region := text }
  | .s3AccessKey => { configuration with inputs.s3.credentials.accessKey := text }
  | .s3SecretKey => { configuration with inputs.s3.credentials.secretKey := text }
  | .logLevel => { configuration with log.level := text }
  | .logFormat => { configuration with log.format := text }

def singleSlashes : List Char → List Char
  | [] => []
  | c :: rest =>
    if c = '/' ∧ rest.head? = some '/' then singleSlashes rest else c :: singleSlashes rest

/-- A directory inside another one. A root directory keeps the slashes it is written with; in any
other path a run of slashes counts as one. -/
def childDir (base name : String) : String :=
  if base.toList.all (· = '/') then base ++ name
  else String.ofList (singleSlashes (base ++ "/" ++ name).toList)

def withDefaults (configuration : Configuration) : Configuration :=
  let dataDir := Text.orElse configuration.dataDir "data"
  { configuration with
    dataDir := dataDir
    preflightDir := Text.orElse configuration.preflightDir (childDir dataDir "preflight")
    inputs.dir := Text.orElse configuration.inputs.dir (childDir dataDir "inputs")
    inputs.contentType := Text.orElse configuration.inputs.contentType "application/json"
    inputs.contentEncoding := Text.orElse configuration.inputs.contentEncoding "plain"
    log.level := Text.orElse configuration.log.level "info"
    log.format := Text.orElse configuration.log.format "text" }

/-- What the tree of a configuration holds for a setting. A chain identifier of 2^63 or more
wraps to a negative number. -/
def leaf (configuration : Configuration) : Setting → Tree
  | .chainId => match configuration.chain.id with
    | some id => .int id.toInt64
    | none => .null
  | setting => .text (configuration.text setting)

def toTree (configuration : Configuration) : Tree :=
  Setting.all.foldl (fun tree setting => tree.set setting.path (configuration.leaf setting))
    (.object [])

end Configuration

end ProverInput
