import ObjectLookup.Decimal.Shortest
import ObjectLookup.Text.Quoted

/-! # Values without a fixed shape

What a delegate answers, what a request context holds and what a service sends back has no fixed
shape. A `Value` keeps such data as it came; `written` is its text in a message, which only a value
without overlong integers has (`isWritable`). Texts are of Unicode scalar values, and values nest
less deep than the stack of a program that goes through them.
-/

namespace ObjectLookup

inductive Value where
  | null
  | bool (b : Bool)
  | int (n : Int)
  | float (x : Decimal.Binary64)
  | text (s : String)
  | bytes (bs : List UInt8)
  | list (vs : List Value)
  | tuple (vs : List Value)
  /-- Entries in their order, with any keys. -/
  | dict (entries : List (Value × Value))
  /-- A view of entries that cannot be changed through it. -/
  | mapping (entries : List (Value × Value))
deriving Repr, Inhabited

namespace Value

/-- The name of the type, as messages state it. -/
def typeName : Value → String
  | .null => "NoneType"
  | .bool _ => "bool"
  | .int _ => "int"
  | .float _ => "float"
  | .text _ => "str"
  | .bytes _ => "bytes"
  | .list _ => "list"
  | .tuple _ => "tuple"
  | .dict _ => "dict"
  | .mapping _ => "mappingproxy"

/-- Null, false, zero and everything empty count as absent. -/
def isPresent : Value → Bool
  | .null => false
  | .bool b => b
  | .int n => n != 0
  | .float x => !x.equalsInt 0
  | .text s => s != ""
  | .bytes bs => !bs.isEmpty
  | .list vs | .tuple vs => !vs.isEmpty
  | .dict es | .mapping es => !es.isEmpty

@[simp] theorem isPresent_null : isPresent .null = false := rfl

/-- A number as the integer it equals: truth values count as zero and one. -/
def equalsInt (n : Int) : Value → Bool
  | .bool b => (if b then 1 else 0) == n
  | .int k => k == n
  | .float x => x.equalsInt n
  | _ => false

/-! ## Entries under equal keys -/

mutual

/-- Whether two values are one key: numbers by value whatever their type, all else by type and
content. -/
def sameKey : Value → Value → Bool
  | .null, .null => true
  | .text s, .text t => s == t
  | .bytes s, .bytes t => s == t
  | .tuple vs, .tuple ws => sameKeys vs ws
  | .bool b, w => w.equalsInt (if b then 1 else 0)
  | .int n, w => w.equalsInt n
  | .float x, .float y => x.equals y
  | .float x, .bool b => x.equalsInt (if b then 1 else 0)
  | .float x, .int n => x.equalsInt n
  | _, _ => false

def sameKeys : List Value → List Value → Bool
  | [], [] => true
  | v :: vs, w :: ws => sameKey v w && sameKeys vs ws
  | _, _ => false

end

/-- Replaces the value under an equal key, which stays as it is, or adds an entry at the end. -/
def put (k v : Value) : List (Value × Value) → List (Value × Value)
  | [] => [(k, v)]
  | e :: es => if e.1.sameKey k then (e.1, v) :: es else e :: put k v es

/-- The entries of a list of pairs, the last pair under a key deciding its value. -/
def entriesOf (pairs : List (Value × Value)) : List (Value × Value) :=
  pairs.foldl (fun es p ↦ put p.1 p.2 es) []

/-- The value under a key that is a text. -/
def field? (name : String) (entries : List (Value × Value)) : Option Value :=
  (entries.find? fun e ↦ match e.1 with
    | .text s => s == name
    | _ => false).map Prod.snd

/-! ## Text -/

/-- Brackets around parts with commas between them. -/
def enclosed (start : String) (parts : List String) (stop : String) : String :=
  start ++ ", ".intercalate parts ++ stop

/-- The most digits that an integer is written with. -/
def maxDigits : Nat := 4300

/-- The integer has few enough digits to be written. Its sign does not count. -/
def isShort (n : Int) : Bool := (Nat.toDigits 10 n.natAbs).length ≤ maxDigits

mutual

/-- Whether the value can be written: there is no integer in it that is too long. -/
def isWritable : Value → Bool
  | .null | .bool _ | .float _ | .text _ | .bytes _ => true
  | .int n => isShort n
  | .list vs | .tuple vs => areWritable vs
  | .dict es | .mapping es => entriesAreWritable es

def areWritable : List Value → Bool
  | [] => true
  | v :: vs => v.isWritable && areWritable vs

def entriesAreWritable : List (Value × Value) → Bool
  | [] => true
  | (k, v) :: es => k.isWritable && v.isWritable && entriesAreWritable es

end

mutual

/-- The written form of a value that can be written. -/
def written : Value → String
  | .null => "None"
  | .bool b => if b then "True" else "False"
  | .int n => toString n
  | .float x => x.text
  | .text s => Text.quoted s
  | .bytes bs => Text.quotedBytes bs
  | .list vs => enclosed "[" (writtenList vs) "]"
  | .tuple vs =>
    match writtenList vs with
    | [one] => enclosed "(" [one] ",)"
    | parts => enclosed "(" parts ")"
  | .dict es => enclosed "\x7b" (writtenEntries es) "\x7d"
  | .mapping es => enclosed "mappingproxy(\x7b" (writtenEntries es) "\x7d)"

def writtenList : List Value → List String
  | [] => []
  | v :: vs => written v :: writtenList vs

def writtenEntries : List (Value × Value) → List String
  | [] => []
  | (k, v) :: es => (written k ++ ": " ++ written v) :: writtenEntries es

end

/-- The text of a value that can be written: a text is itself, everything else its written form. -/
def display : Value → String
  | .text s => s
  | v => v.written

@[simp] theorem display_text (s : String) : display (.text s) = s := rfl

end Value

end ObjectLookup
