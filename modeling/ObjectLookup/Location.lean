import ObjectLookup.Failure

/-! # Identifiers and locations -/

namespace ObjectLookup

/-- The name under which a resource was requested from outside. -/
structure Identifier where
  value : String
deriving DecidableEq, Repr

/-- Only a text is an identifier. -/
def Identifier.ofValue : Value → Except Failure Identifier
  | .text s => .ok ⟨s⟩
  | v => .error (.invalidValue ("Identifier value must be a string, got " ++ v.typeName))

@[simp] theorem Identifier.ofValue_text (s : String) : ofValue (.text s) = .ok ⟨s⟩ := rfl

/-- Bucket and key of a stored object. -/
structure Location where
  bucket : String
  key : String
deriving DecidableEq, Repr

namespace Location

/-- The location as messages state it. -/
def text (l : Location) : String := l.bucket ++ "/" ++ l.key

def uri (l : Location) : String := "s3://" ++ l.text

end Location

end ObjectLookup
