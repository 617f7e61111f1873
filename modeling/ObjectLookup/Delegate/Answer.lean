import ObjectLookup.Delegate
import ObjectLookup.Text.Given

/-! # Answers of a delegate

A delegate answers nothing, a key, or a mapping with a bucket and a key. In a mapping both may be
given as text, as bytes in UTF-8 or as numbers, and entries under other keys are ignored. No text
that is used may be empty.

A mapping that is refused is written to the log as a whole. So an overlong integer stands in the way
of reading a mapping: as one of the two texts always, and anywhere else if the mapping is refused.
-/

namespace ObjectLookup

inductive Answer where
  /-- The object does not exist. -/
  | absent
  | key (key : String)
  | location (location : Location)
deriving DecidableEq, Repr

namespace Answer

/-- What can be wrong with an answer. -/
inductive Problem where
  | emptyKey
  /-- A mapping without a usable bucket and key. -/
  | unusable (mapping : Value)
  | unsupported (typeName : String)
  /-- An integer in a mapping cannot be written. -/
  | overlong
deriving Repr

/-- The text that a value in a mapping counts as, if it counts as one. -/
def text? : Value → Except Problem (Option String)
  | .text s => .ok (some s)
  | .bytes bs => .ok (String.fromUTF8? ⟨bs.toArray⟩)
  | .int n => if Value.isShort n then .ok (some (toString n)) else .error .overlong
  | .float x => .ok (some x.text)
  | _ => .ok none

/-- The text under a name, if it is there and not empty. -/
def field? (name : String) (entries : List (Value × Value)) : Except Problem (Option String) :=
  match Value.field? name entries with
  | some v => (text? v).map given?
  | none => .ok none

/-- The location that the entries of a mapping give. Both fields are read, even if the first one is
of no use. -/
def location? (entries : List (Value × Value)) : Except Problem (Option Location) := do
  let bucket ← field? "bucket" entries
  let key ← field? "key" entries
  return match bucket, key with
    | some b, some k => some ⟨b, k⟩
    | _, _ => none

/-- Reads the answer of a delegate. -/
def ofValue (v : Value) : Except Problem Answer :=
  match v with
  | .null => .ok .absent
  | .text s => if s = "" then .error .emptyKey else .ok (.key s)
  | .dict entries | .mapping entries =>
    match location? entries with
    | .error p => .error p
    | .ok (some l) => .ok (.location l)
    | .ok none => if v.isWritable then .error (.unusable v) else .error .overlong
  | v => .error (.unsupported v.typeName)

namespace Problem

/-- What is wrong with an answer for an identifier. -/
def fault (identifier : String) : Problem → Fault
  | .emptyKey => refusal ("returned an empty key for " ++ identifier)
  | .unusable _ =>
    refusal ("returned a mapping without a usable bucket and key for " ++ identifier)
  | .unsupported t => refusal ("returned unsupported type " ++ t ++ " for " ++ identifier)
  | .overlong => .overlong
where
  refusal (what : String) : Fault :=
    .ofKind .invalidDelegateResult (getObjectKey ++ " " ++ what)

/-- A mapping is refused because it did not pass the check of its fields. -/
def causes : Problem → List Fault
  | .unusable _ => [.other "ValidationError" "bucket and key are required and must not be empty"]
  | _ => []

def failure (identifier : String) (p : Problem) : Failure := ⟨p.fault identifier, p.causes⟩

/-- The log line for a mapping that was refused. -/
def report {σ : Type} (p : Problem) (s : Session σ) : Session σ :=
  match p with
  | .unusable mapping =>
    s.log .error .delegate
      (getObjectKey ++ " result does not include bucket and key: " ++ mapping.written)
  | _ => s

end Problem

/-- Reads the answer of a delegate for an identifier. -/
def read {σ : Type} (v : Value) (identifier : String) (s : Session σ) :
    Except Failure Answer × Session σ :=
  match ofValue v with
  | .ok a => (.ok a, s)
  | .error p => (.error (p.failure identifier), p.report s)

end Answer

end ObjectLookup
