import ProverInput.Configuration.Basic

/-!
Groups of settings that go together: once one field of a group is used, every field that the group
requires must be there.
-/

namespace ProverInput

structure GroupField where
  name : String
  required : Bool
  read : Configuration → String

namespace GroupField

def isEmpty (field : GroupField) (configuration : Configuration) : Bool :=
  field.read configuration = ""

def isMissing (field : GroupField) (configuration : Configuration) : Bool :=
  field.required && field.isEmpty configuration

end GroupField

structure MissingFields where
  group : String
  names : List String
  deriving DecidableEq, Repr

def MissingFields.message (missing : MissingFields) : String :=
  ", ".intercalate missing.names ++ " must be specified when using " ++ missing.group ++ " storage"

structure FieldGroup where
  name : String
  fields : List GroupField

namespace FieldGroup

def inUse (group : FieldGroup) (configuration : Configuration) : Bool :=
  group.fields.any fun field => !field.isEmpty configuration

def missingNames (group : FieldGroup) (configuration : Configuration) : List String :=
  (group.fields.filter (·.isMissing configuration)).map (·.name)

def missing? (group : FieldGroup) (configuration : Configuration) : Option MissingFields :=
  if group.inUse configuration && !(group.missingNames configuration).isEmpty then
    some ⟨group.name, group.missingNames configuration⟩
  else none

/-- The settings of an S3 store. The prefix of its keys may stay empty. -/
def s3 : FieldGroup where
  name := "s3"
  fields := [
    ⟨"s3-bucket", true, (·.text .s3Bucket)⟩,
    ⟨"s3-bucket-key-prefix", false, (·.text .s3KeyPrefix)⟩,
    ⟨"access-key", true, (·.text .s3AccessKey)⟩,
    ⟨"secret-key", true, (·.text .s3SecretKey)⟩,
    ⟨"region", true, (·.text .s3Region)⟩]

end FieldGroup

end ProverInput
