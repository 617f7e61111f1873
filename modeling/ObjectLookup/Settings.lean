import ObjectLookup.Failure
import ObjectLookup.Settings.Grammar
import ObjectLookup.Text.Given

/-! # Settings

`Settings.check` refuses settings that cannot work: half of the credentials, a timeout that is not
positive, an endpoint or a delegate target that is not of the right form. An empty text counts as
one that is not set. The lookup strategy is not checked here: it is read when it is first needed.
-/

namespace ObjectLookup

structure Settings where
  lookupStrategy : Option String := none
  bucketName : Option String := none
  bucketRegion : Option String := none
  accessKeyId : Option String := none
  secretKey : Option String := none
  endpointUrl : Option String := none
  connectTimeout : Decimal.Binary64 := .ofDecimal false 10 0
  readTimeout : Decimal.Binary64 := .ofDecimal false 60 0
  delegateEnabled : Bool := false
  delegateTarget : Option String := none
deriving DecidableEq, Repr

namespace Settings

/-- What can be wrong with settings. -/
inductive Problem where
  | secretMissing
  | keyMissing
  | connectTimeout (seconds : Decimal.Binary64)
  | readTimeout (seconds : Decimal.Binary64)
  | endpoint (url : String)
  | target (path : String)
deriving DecidableEq, Repr

namespace Problem

def message : Problem → String
  | .secretMissing => "access_key_id specified but secret_key is missing"
  | .keyMissing => "secret_key specified but access_key_id is missing"
  | .connectTimeout x => "connect_timeout_s must be positive, got " ++ x.text
  | .readTimeout x => "read_timeout_s must be positive, got " ++ x.text
  | .endpoint url => "Invalid endpoint_url format: " ++ url
  | .target t => "Invalid delegate_target format: " ++ t ++ ". Expected 'package.module:function'."

def failure (p : Problem) : Failure := .invalidValue p.message

end Problem

def credentials? (s : Settings) : Option Problem :=
  match given? s.accessKeyId, given? s.secretKey with
  | some _, none => some .secretMissing
  | none, some _ => some .keyMissing
  | _, _ => none

def timeouts? (s : Settings) : Option Problem :=
  if s.connectTimeout.isNonpositive then some (.connectTimeout s.connectTimeout)
  else if s.readTimeout.isNonpositive then some (.readTimeout s.readTimeout)
  else none

def endpoint? (s : Settings) : Option Problem :=
  match given? s.endpointUrl with
  | some url => if isEndpoint url.toList then none else some (.endpoint url)
  | none => none

def target? (s : Settings) : Option Problem :=
  match given? s.delegateTarget with
  | some t => if isTarget t.toList then none else some (.target t)
  | none => none

/-- The first problem: of the credentials, the timeouts, the endpoint, the delegate target. -/
def problem? (s : Settings) : Option Problem :=
  s.credentials?.or (s.timeouts?.or (s.endpoint?.or s.target?))

/-- The settings, if nothing is wrong with them. -/
def check (s : Settings) : Except Failure Settings :=
  match s.problem? with
  | some p => .error p.failure
  | none => .ok s

def hasCredentials (s : Settings) : Bool :=
  (given? s.accessKeyId).isSome && (given? s.secretKey).isSome

theorem problem?_eq_none {s : Settings} : s.problem? = none ↔ s.credentials? = none ∧
    s.timeouts? = none ∧ s.endpoint? = none ∧ s.target? = none := by
  simp only [problem?, Option.or_eq_none_iff]

theorem check_eq_ok {s t : Settings} : s.check = .ok t ↔ s.problem? = none ∧ s = t := by
  cases h : s.problem? <;> simp [check, h]

end Settings

end ObjectLookup
