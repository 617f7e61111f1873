import ObjectLookup.Value

/-! # Failures

A failure is a fault together with the faults that it was raised for, nearest first. Each fault has
the name of its class, its text, and a family: what a handler that catches by class goes by, and
what the fault carries for it.

Every fault has a text, one from outside too: asking it for its text does not fail. A fault that was
raised while another one was handled counts as raised for it only where the program says so.
-/

namespace ObjectLookup

/-- The kinds of failure that a resolver reports. -/
inductive ErrorKind where
  | notFound
  | accessDenied
  | storageFailure
  | invalidDelegateResult
  | invalidConfiguration
  | externalSubsystem
deriving DecidableEq, Repr

namespace ErrorKind

def all : List ErrorKind :=
  [.notFound, .accessDenied, .storageFailure, .invalidDelegateResult, .invalidConfiguration,
    .externalSubsystem]

theorem mem_all (k : ErrorKind) : k ∈ all := by cases k <;> decide

/-- The label that stands for the kind in reports. -/
def label : ErrorKind → String
  | .notFound => "not_found"
  | .accessDenied => "access_denied"
  | .storageFailure => "storage_io"
  | .invalidDelegateResult => "invalid_delegate_result"
  | .invalidConfiguration => "invalid_configuration"
  | .externalSubsystem => "external_subsystem"

/-- The class of the errors of this kind. -/
def className : ErrorKind → String
  | .notFound => "ObjectNotFound"
  | .accessDenied => "AccessDenied"
  | .storageFailure => "StorageIOError"
  | .invalidDelegateResult => "InvalidDelegateResult"
  | .invalidConfiguration => "InvalidConfiguration"
  | .externalSubsystem => "ExternalSubsystemError"

/-- Whether the class of this kind is a class of storage errors. -/
def isStorage : ErrorKind → Bool
  | .storageFailure | .invalidDelegateResult | .externalSubsystem => true
  | .notFound | .accessDenied | .invalidConfiguration => false

def ofLabel? (s : String) : Option ErrorKind := all.find? (·.label == s)

@[simp] theorem ofLabel?_label (k : ErrorKind) : ofLabel? k.label = some k := by
  cases k <;> decide

end ErrorKind

/-- What a handler goes by. -/
inductive Family where
  /-- An error of the resolver's own taxonomy. -/
  | lookup (kind : ErrorKind)
  /-- A neutral error of a storage client, with the service's code and status if known. -/
  | storage (code : Option String) (status : Value)
  /-- The service answered a request with an error. -/
  | service (response : Value)
  /-- The request got no answer. -/
  | transport
  /-- A delegate was called while delegates are disabled. -/
  | delegateDisabled
  | other
deriving Repr

structure Fault where
  name : String
  text : String
  family : Family
deriving Repr

namespace Fault

/-- An error of the taxonomy. -/
def ofKind (kind : ErrorKind) (text : String) : Fault := ⟨kind.className, text, .lookup kind⟩

def other (name text : String) : Fault := ⟨name, text, .other⟩

/-- A value that is well formed but not allowed. -/
def invalidValue (text : String) : Fault := other "ValueError" text

/-- An integer that was to be written and has too many digits. -/
def overlong : Fault :=
  invalidValue ("Exceeds the limit (4300 digits) for integer string conversion; " ++
    "use sys.set_int_max_str_digits() to increase the limit")

/-- A member asked of a value that has none of that name. -/
def noMember (typeName member : String) : Fault :=
  other "AttributeError" ("'" ++ typeName ++ "' object has no attribute '" ++ member ++ "'")

/-- The kind of an error of the taxonomy. -/
def kind? (f : Fault) : Option ErrorKind :=
  match f.family with
  | .lookup k => some k
  | _ => none

@[simp] theorem kind?_ofKind (k : ErrorKind) (s : String) : (ofKind k s).kind? = some k := rfl
@[simp] theorem name_ofKind (k : ErrorKind) (s : String) : (ofKind k s).name = k.className := rfl
@[simp] theorem text_ofKind (k : ErrorKind) (s : String) : (ofKind k s).text = s := rfl

end Fault

/-- A fault and the chain of its causes, nearest first. -/
structure Failure where
  fault : Fault
  causes : List Fault := []
deriving Repr

namespace Failure

def text (e : Failure) : String := e.fault.text

def kind? (e : Failure) : Option ErrorKind := e.fault.kind?

/-- A failure without a cause. -/
def ofKind (kind : ErrorKind) (text : String) : Failure := ⟨.ofKind kind text, []⟩

def invalidValue (text : String) : Failure := ⟨.invalidValue text, []⟩

/-- The fault and all of its causes, nearest first. -/
def chain (e : Failure) : List Fault := e.fault :: e.causes

/-- A fault raised because of an earlier failure, which becomes its cause with all of its own. -/
def because (f : Fault) (cause : Failure) : Failure := ⟨f, cause.chain⟩

/-- What writing an overlong integer fails with. -/
def overlong : Failure := ⟨.overlong, []⟩

end Failure

/-- Writes a value down. -/
def Value.write (v : Value) : Except Failure String :=
  if v.isWritable then .ok v.written else .error .overlong

/-- Gives the text of a value. -/
def Value.print : Value → Except Failure String
  | .text s => .ok s
  | v => v.write

namespace Failure

/-- The kind that a value is the label of. -/
def kindOfLabel (v : Value) : Except Failure ErrorKind := do
  let kind? := match v with
    | .text s => ErrorKind.ofLabel? s
    | _ => none
  match kind? with
  | some kind => return kind
  | none => throw (invalidValue ((← v.write) ++ " is not a valid ErrorKind"))

@[simp] theorem causes_because (f : Fault) (e : Failure) : (because f e).causes = e.chain := rfl
@[simp] theorem fault_because (f : Fault) (e : Failure) : (because f e).fault = f := rfl
@[simp] theorem kind?_ofKind (k : ErrorKind) (s : String) : (ofKind k s).kind? = some k := rfl

end Failure

end ObjectLookup
