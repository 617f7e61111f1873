import ObjectLookup.Location
import ObjectLookup.Text.Given
import ObjectLookup.Text.Split

/-! # Errors of the storage service

A service answers a failed request with nested fields, any of which may be missing or may hold
something else than fields. The error's text is put together when it is raised; its code and its
status are read when it is turned into a neutral storage error. An error whose code cannot be
written is never raised, since the code is a part of the text.
-/

namespace ObjectLookup.S3

/-- The entries of a value that must have some. -/
def entriesOf (v : Value) : Except Failure (List (Value × Value)) :=
  match v with
  | .dict es | .mapping es => .ok es
  | v => .error ⟨.noMember v.typeName "get", []⟩

/-- A field of a value that may be missing, which has no fields then. -/
def field (name : String) (v : Value) : Except Failure Value :=
  if v.isPresent then do
    let es ← entriesOf v
    return (Value.field? name es).getD .null
  else .ok .null

/-- A value of a type that does not allow for what is done with it. -/
def unfit (text : String) : Failure := ⟨.other "TypeError" text, []⟩

/-- What a value has under a name. Texts and lists may hold the name, but have nothing under it;
other values without fields cannot be asked for a name at all. -/
def lookUp? (name : String) (v : Value) : Except Failure (Option Value) :=
  match v with
  | .dict es | .mapping es => .ok (Value.field? name es)
  | .text s =>
    if Text.occursIn name.toList s.toList then
      .error (unfit "string indices must be integers, not 'str'")
    else .ok none
  | .list vs | .tuple vs =>
    if vs.any (Value.sameKey (.text name)) then
      .error (unfit (v.typeName ++ " indices must be integers or slices, not str"))
    else .ok none
  | .bytes _ => .error (unfit "a bytes-like object is required, not 'str'")
  | .null | .bool _ | .int _ | .float _ =>
    .error (unfit ("argument of type '" ++ v.typeName ++ "' is not iterable"))

/-- A remark on the attempts that were made, if the service made all it could. -/
def retryNote (response : Value) : Except Failure String := do
  match ← lookUp? "ResponseMetadata" response with
  | none => return ""
  | some metadata =>
    let es ← entriesOf metadata
    if ((Value.field? "MaxAttemptsReached" es).getD (.bool false)).isPresent then
      match Value.field? "RetryAttempts" es with
      | some n => return " (reached max retries: " ++ (← n.print) ++ ")"
      | none => return ""
    else return ""

/-- The text of a part of the error, if the service sent it. -/
def errorPart (name : String) (error : List (Value × Value)) : Except Failure String :=
  ((Value.field? name error).getD (.text "Unknown")).print

/-- The fault for an error response to an operation. -/
def serviceFault (response : Value) (operation : String) : Except Failure Fault := do
  let note ← retryNote response
  let es ← entriesOf response
  let error ← entriesOf ((Value.field? "Error" es).getD (.dict []))
  return {
    name := "ClientError"
    text := "An error occurred (" ++ (← errorPart "Code" error) ++ ") when calling the " ++
      operation ++ " operation" ++ note ++ ": " ++ (← errorPart "Message" error)
    family := .service response }

/-- The code in an error response, if there is one. It can be written: the error has a text. -/
def codeOf (response : Value) : Except Failure (Option String) := do
  let error ← field "Error" response
  let code ← field "Code" error
  return if code.isPresent then given? (some code.display) else none

/-- The status in an error response, null if there is none. -/
def statusOf (response : Value) : Except Failure Value := do
  let metadata ← field "ResponseMetadata" response
  field "HTTPStatusCode" metadata

/-- A neutral storage error. -/
def storageFault (text : String) (code : Option String) (status : Value) : Fault :=
  ⟨"StorageClientError", text, .storage code status⟩

def requestText (l : Location) (e : Failure) : String :=
  "S3 get_object failed for " ++ l.uri ++ ": " ++ e.text

/-- The neutral form of an error response to a request for an object. -/
def storageFailure (response : Value) (l : Location) (e : Failure) : Except Failure Failure := do
  let code ← codeOf response
  let status ← statusOf response
  return .because (storageFault (requestText l e) code status) e

/-- The failure of a request as a storage client reports it. A request without an answer has its
class for a code; anything that is not an error of the service's own passes as it is. -/
def neutral (l : Location) (e : Failure) : Failure :=
  match e.fault.family with
  | .service response =>
    match storageFailure response l e with
    | .ok f | .error f => f
  | .transport =>
    let text := "S3 request failed for " ++ l.uri ++ ": " ++ e.text
    .because (storageFault text (some e.fault.name) .null) e
  | _ => e

end ObjectLookup.S3
