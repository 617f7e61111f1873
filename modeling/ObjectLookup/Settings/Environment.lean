import ObjectLookup.Decimal.Reader
import ObjectLookup.Entries
import ObjectLookup.Settings
import ObjectLookup.Text.Lower

/-! # Settings from environment variables

Every field has a variable of its own, and a variable with an empty value counts as unset. The
timeouts are read before anything is checked, the connect timeout first.
-/

namespace ObjectLookup.Settings

abbrev Variables := Entries String

/-- The variables' names. -/
inductive Variable where
  | lookupStrategy | bucketName | bucketRegion | accessKeyId | secretKey | endpoint
  | connectTimeout | readTimeout | delegateEnabled | delegate
deriving DecidableEq, Repr

def Variable.name : Variable → String
  | .lookupStrategy => "S3RESOLVER_LOOKUP_STRATEGY"
  | .bucketName => "S3RESOLVER_BUCKET_NAME"
  | .bucketRegion => "S3RESOLVER_BUCKET_REGION"
  | .accessKeyId => "S3RESOLVER_ACCESS_KEY_ID"
  | .secretKey => "S3RESOLVER_SECRET_KEY"
  | .endpoint => "S3RESOLVER_ENDPOINT"
  | .connectTimeout => "S3RESOLVER_CONNECT_TIMEOUT"
  | .readTimeout => "S3RESOLVER_READ_TIMEOUT"
  | .delegateEnabled => "S3RESOLVER_DELEGATE_ENABLED"
  | .delegate => "S3RESOLVER_DELEGATE"

def Variable.all : List Variable :=
  [.lookupStrategy, .bucketName, .bucketRegion, .accessKeyId, .secretKey, .endpoint,
    .connectTimeout, .readTimeout, .delegateEnabled, .delegate]

theorem Variable.mem_all (v : Variable) : v ∈ all := by cases v <;> decide

/-- The value of a variable, unless it is unset or empty. -/
def text? (env : Variables) (v : Variable) : Option String := given? (env.get? v.name)

/-- The seconds that a variable spells out, or the default if it is unset. -/
def seconds (env : Variables) (v : Variable) (default : Decimal.Binary64) :
    Except Failure Decimal.Binary64 :=
  match text? env v with
  | none => .ok default
  | some s =>
    match Decimal.read? s with
    | some x => .ok x
    | none => .error (.invalidValue ("could not convert string to float: " ++ Text.quoted s))

/-- The words that switch an option on, in any case. -/
def isOn (s : String) : Bool := Text.lower s ∈ ["true", "1", "yes", "on"]

/-- The settings that the variables describe. -/
def ofVariables (env : Variables) : Except Failure Settings := do
  let connectTimeout ← seconds env .connectTimeout (.ofDecimal false 10 0)
  let readTimeout ← seconds env .readTimeout (.ofDecimal false 60 0)
  check {
    lookupStrategy := text? env .lookupStrategy
    bucketName := text? env .bucketName
    bucketRegion := text? env .bucketRegion
    accessKeyId := text? env .accessKeyId
    secretKey := text? env .secretKey
    endpointUrl := text? env .endpoint
    connectTimeout
    readTimeout
    delegateEnabled := isOn ((env.get? Variable.delegateEnabled.name).getD "false")
    delegateTarget := text? env .delegate }

end ObjectLookup.Settings
