import ProverInput.Log.Event
import ProverInput.Tree.Path

/-!
The settings of the program: where each one stands in the tree of settings, and the command line
flag and environment variable that supply it.
-/

namespace ProverInput

inductive Setting where
  | chainId
  | chainRpcUrl
  | dataDir
  | preflightDir
  | inputsDir
  | contentType
  | contentEncoding
  | s3Bucket
  | s3KeyPrefix
  | s3Region
  | s3AccessKey
  | s3SecretKey
  | logLevel
  | logFormat
  deriving DecidableEq, Repr

namespace Setting

def all : List Setting :=
  [.chainId, .chainRpcUrl, .dataDir, .preflightDir, .inputsDir, .contentType, .contentEncoding,
    .s3Bucket, .s3KeyPrefix, .s3Region, .s3AccessKey, .s3SecretKey, .logLevel, .logFormat]

/-- Every setting, in the order in which they are checked. -/
def checkOrder : List Setting :=
  [.chainId, .chainRpcUrl, .dataDir, .preflightDir, .contentType, .contentEncoding, .inputsDir,
    .s3Bucket, .s3KeyPrefix, .s3Region, .s3AccessKey, .s3SecretKey, .logLevel, .logFormat]

def key : Setting → String
  | .chainId => "chain.id"
  | .chainRpcUrl => "chain.rpc-url"
  | .dataDir => "data-dir"
  | .preflightDir => "preflight-data-store.file.dir"
  | .inputsDir => "prover-input-store.file.dir"
  | .contentType => "prover-input-store.content-type"
  | .contentEncoding => "prover-input-store.content-encoding"
  | .s3Bucket => "prover-input-store.s3.bucket"
  | .s3KeyPrefix => "prover-input-store.s3.bucket-key-prefix"
  | .s3Region => "prover-input-store.s3.aws-provider.region"
  | .s3AccessKey => "prover-input-store.s3.aws-provider.credentials.access-key"
  | .s3SecretKey => "prover-input-store.s3.aws-provider.credentials.secret-key"
  | .logLevel => "log.level"
  | .logFormat => "log.format"

def path (setting : Setting) : List String :=
  Path.split setting.key

def flag : Setting → String
  | .chainId => "--chain-id"
  | .chainRpcUrl => "--chain-rpc-url"
  | .dataDir => "--data-dir"
  | .preflightDir => "--preflight-dir"
  | .inputsDir => "--inputs-dir"
  | .contentType => "--inputs-content-type"
  | .contentEncoding => "--inputs-content-encoding"
  | .s3Bucket => "--s3-bucket"
  | .s3KeyPrefix => "--s3-bucket-key-prefix"
  | .s3Region => "--s3-region"
  | .s3AccessKey => "--s3-access-key"
  | .s3SecretKey => "--s3-secret-key"
  | .logLevel => "--log-level"
  | .logFormat => "--log-format"

def envVar : Setting → String
  | .chainId => "ZKPIG_CHAIN_ID"
  | .chainRpcUrl => "ZKPIG_CHAIN_RPC_URL"
  | .dataDir => "ZKPIG_DATA_DIR"
  | .preflightDir => "ZKPIG_PREFLIGHT_DATA_STORE_FILE_DIR"
  | .inputsDir => "ZKPIG_PROVER_INPUT_STORE_FILE_DIR"
  | .contentType => "ZKPIG_PROVER_INPUT_STORE_CONTENT_TYPE"
  | .contentEncoding => "ZKPIG_PROVER_INPUT_STORE_CONTENT_ENCODING"
  | .s3Bucket => "ZKPIG_PROVER_INPUT_STORE_S3_BUCKET"
  | .s3KeyPrefix => "ZKPIG_PROVER_INPUT_STORE_S3_BUCKET_KEY_PREFIX"
  | .s3Region => "ZKPIG_PROVER_INPUT_STORE_S3_AWS_PROVIDER_REGION"
  | .s3AccessKey => "ZKPIG_PROVER_INPUT_STORE_S3_AWS_PROVIDER_CREDENTIALS_ACCESS_KEY"
  | .s3SecretKey => "ZKPIG_PROVER_INPUT_STORE_S3_AWS_PROVIDER_CREDENTIALS_SECRET_KEY"
  | .logLevel => "ZKPIG_LOG_LEVEL"
  | .logFormat => "ZKPIG_LOG_FORMAT"

def placeholder : Setting → String
  | .chainId => "<id>"
  | .chainRpcUrl => "<url>"
  | .dataDir | .preflightDir | .inputsDir => "<path>"
  | .contentType => "<type>"
  | .contentEncoding => "<enc>"
  | .s3Bucket => "<name>"
  | .s3KeyPrefix => "<prefix>"
  | .s3Region => "<region>"
  | .s3AccessKey | .s3SecretKey => "<key>"
  | .logLevel => "<level>"
  | .logFormat => "<format>"

def description : Setting → String
  | .chainId => "Chain identifier (required by prepare/execute when running offline)"
  | .chainRpcUrl => "JSON-RPC endpoint of an Ethereum Execution Layer node"
  | .dataDir => "Base directory for preflight data and prover inputs (default data)"
  | .preflightDir => "Directory for preflight data (default <data-dir>/preflight)"
  | .inputsDir => "Directory for prover inputs (default <data-dir>/inputs)"
  | .contentType => "application/json or application/protobuf (default application/json)"
  | .contentEncoding => "plain, gzip or flate (default plain)"
  | .s3Bucket => "S3 bucket receiving prover inputs"
  | .s3KeyPrefix => "Optional key prefix inside the S3 bucket"
  | .s3Region => "AWS region of the S3 bucket"
  | .s3AccessKey => "AWS access key"
  | .s3SecretKey => "AWS secret key"
  | .logLevel => "debug, info, warn or error (default info)"
  | .logFormat => "text or json (default text)"

def ofKey? (key : String) : Option Setting :=
  all.find? (·.key = key)

def ofFlag? (flag : String) : Option Setting :=
  all.find? (·.flag = flag)

def choices : Setting → List String
  | .contentType => ["application/json", "application/protobuf"]
  | .contentEncoding => ["plain", "gzip", "flate"]
  | .logLevel => ["debug", "info", "warn", "error"]
  | .logFormat => ["text", "json"]
  | _ => []

end Setting

end ProverInput
