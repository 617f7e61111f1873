import ObjectLookup.Delegate.Answer
import ObjectLookup.Delegate.Load
import ObjectLookup.Mappings
import ObjectLookup.Text.Blank
import ObjectLookup.Text.Lower

/-! # Lookup strategies

A lookup strategy maps an identifier to a location. The direct one takes the identifier as the key;
the dynamic one asks a delegate for the key, and perhaps the bucket. Either falls back on a default
bucket, without which there is no location.

The context of a lookup is a mapping of the caller's. A delegate may change the mapping that it is
given, so the dynamic strategy gives it a copy (`Strategy.lookUp`).
-/

namespace ObjectLookup

inductive Strategy (σ : Type) where
  | direct (bucket : Option String)
  | dynamic (delegate : Delegate σ) (bucket : Option String)
  /-- A strategy from outside, which only reads the context. -/
  | custom (resolve : Identifier → Context → Act σ Location)

/-- The strategies that settings can select. -/
inductive Selector where
  | direct | dynamic
deriving DecidableEq, Repr

namespace Selector

/-- Each strategy has two names. -/
def ofName? (name : String) : Option Selector :=
  if name = "direct" ∨ name = "basiclookupstrategy" then some .direct
  else if name = "dynamic" ∨ name = "scriptlookupstrategy" then some .dynamic
  else none

/-- The strategy that settings name, in any case and with blanks around it. -/
def ofSettings? (settings : Settings) : Option Selector :=
  ofName? (Text.lower (Text.trim (settings.lookupStrategy.getD "")))

end Selector

namespace Strategy

variable {σ : Type}

def noBucket : Failure :=
  .ofKind .invalidConfiguration "bucket_name is not set and the lookup strategy supplied no bucket"

/-- The location of a key in the default bucket. -/
def inBucket (bucket : Option String) (key : String) : Except Failure Location :=
  match given? bucket with
  | some b => .ok ⟨b, key⟩
  | none => .error noBucket

/-- The failure of a lookup whose delegate failed. -/
def delegateFailure (identifier : String) (e : Failure) : Failure :=
  let text := match e.fault.family with
    | .delegateDisabled => e.text
    | _ => getObjectKey ++ " failed for " ++ identifier ++ ": " ++ e.text
  .because (.ofKind .externalSubsystem text) e

def absent (identifier : String) : Failure :=
  .ofKind .notFound (getObjectKey ++ " returned nil for " ++ identifier)

/-- The location that a delegate's answer stands for. -/
def ofAnswer (bucket : Option String) (identifier : String) : Answer → Except Failure Location
  | .absent => .error (absent identifier)
  | .key k => inBucket bucket k
  | .location l => .ok l

/-- Asks the delegate, and reads its answer. A failure of the delegate is logged, of which the
journal keeps the message (`LogRecord`). -/
def ask (delegate : Delegate σ) (identifier : String) (context : Context) (s : Session σ) :
    Except Failure Answer × Session σ :=
  let s := s.log .debug .strategies ("Invoking " ++ getObjectKey ++ " for " ++ identifier)
  match delegate.call identifier context s with
  | (.error e, s) =>
    let failure := delegateFailure identifier e
    (.error failure, s.log .error .strategies failure.text)
  | (.ok v, s) => Answer.read v identifier s

/-- Looks up an identifier with the mapping of number `i` for a context. The dynamic strategy makes
a copy of the mapping for its delegate, which may leave the copy with other entries. -/
def lookUp (strategy : Strategy σ) (identifier : Identifier) (i : Nat) (m : Mappings)
    (s : Session σ) : Except Failure Location × Mappings × Session σ :=
  match strategy with
  | .direct bucket => (inBucket bucket identifier.value, m, s)
  | .dynamic delegate bucket =>
    let own := m.count
    let m := m.copy i
    let left := delegate.leaves identifier.value (m.read own) s
    let (answer, s) := ask delegate identifier.value (m.read own) s
    (answer.bind (ofAnswer bucket identifier.value), m.write own left, s)
  | .custom resolve =>
    let (location, s) := s.perform (resolve identifier (m.read i))
    (location, m, s)

/-- The location of an identifier, looked up with a context of its own. -/
def resolve (strategy : Strategy σ) (identifier : Identifier) (context : Context)
    (s : Session σ) : Except Failure Location × Session σ :=
  let (location, _, s) := strategy.lookUp identifier 0 ⟨[context]⟩ s
  (location, s)

@[simp] theorem resolve_direct (bucket : Option String) (identifier : Identifier)
    (context : Context) (s : Session σ) :
    (direct bucket).resolve identifier context s = (inBucket bucket identifier.value, s) := rfl

theorem resolve_dynamic (d : Delegate σ) (bucket : Option String) (identifier : Identifier)
    (context : Context) (s : Session σ) :
    (dynamic d bucket).resolve identifier context s =
      ((ask d identifier.value context s).1.bind (ofAnswer bucket identifier.value),
        (ask d identifier.value context s).2) := rfl

theorem resolve_custom (resolve : Identifier → Context → Act σ Location)
    (identifier : Identifier) (context : Context) (s : Session σ) :
    (custom resolve).resolve identifier context s = s.perform (resolve identifier context) := rfl

def unknownSelector (settings : Settings) : Failure :=
  .ofKind .invalidConfiguration
    ("lookup_strategy is invalid or not set: " ++ Text.quoted? settings.lookupStrategy ++
      ". Supported values: Direct, Dynamic")

/-- The strategy that settings select. A delegate is loaded only if the dynamic strategy is
selected and none was supplied. -/
def select (importer : Importer σ) (settings : Settings) (delegate : Option (Delegate σ))
    (s : Session σ) : Except Failure (Strategy σ) × Session σ :=
  let s := s.record .selected
  match Selector.ofSettings? settings with
  | none => (.error (unknownSelector settings), s)
  | some .direct => (.ok (.direct settings.bucketName), s)
  | some .dynamic =>
    let (d, s) := match delegate with
      | some d => (d, s)
      | none => Delegate.load importer settings s
    (.ok (.dynamic d settings.bucketName), s)

end Strategy

end ObjectLookup
