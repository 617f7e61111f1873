import ObjectLookup.S3.ServiceError

/-! # Faults by the name of their class

Scripted parts raise faults that are given by a class name and a message. A class of any other name
may be derived from a known one: it keeps its own name, and is handled as the known one is.
-/

namespace ObjectLookup.Scripted

/-- The family of a known class. -/
def familyOf (className : String) (code : Option String) (status : Value) : Family :=
  match ErrorKind.all.find? (·.className == className) with
  | some kind => .lookup kind
  | none =>
    if className = "ResolverError" then .lookup .storageFailure
    else if className = "StorageClientError" then .storage code status
    else if className = "DelegateDisabledError" then .delegateDisabled
    else .other

/-- The text of a fault of a known class, made of a message that can be written. That of a missing
key is the key's written form. -/
def textOf (className : String) (message : Value) : String :=
  if className = "KeyError" then message.written else message.display

/-- A fault of a class that is known, or derived from `base`. -/
def fault (name : String) (base : Option String) (message : Value)
    (code : Option String := none) (status : Value := .null) : Fault :=
  let known := base.getD name
  ⟨name, textOf known message, familyOf known code status⟩

def keyMissing (key : String) : Fault := fault "KeyError" none (.text key)

/-- A request that got no answer. -/
def transportFault (name message : String) : Fault := ⟨name, message, .transport⟩

example (kind : ErrorKind) (m : String) : fault kind.className none (.text m) = .ofKind kind m := by
  cases kind <;> rfl

end ObjectLookup.Scripted
