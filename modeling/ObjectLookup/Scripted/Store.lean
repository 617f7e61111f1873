import ObjectLookup.S3.Client
import ObjectLookup.Scripted.Fault

/-! # A scripted store

A store that is given as a list of entries, each an object or a failure for one location. Objects
may have faults at every point at which an object can fail. The stage keeps what the script cannot
know in advance: how far each stream was read, what was closed, how often the factory was run.
-/

namespace ObjectLookup.Scripted

/-- Failures of an object, each raised whenever its point is reached. -/
structure Faults where
  openStream : Option Failure := none
  contentType : Option Failure := none
  contentLength : Option Failure := none
  close : Option Failure := none
  bodyClose : Option Failure := none
  /-- Reads fail once the given number of them have succeeded. -/
  read : Option (Nat × Failure) := none
deriving Inhabited

/-- The length that an object states. -/
inductive StatedLength where
  /-- None is stated, so it is the length of the data where the store knows that. -/
  | unstated
  | unknown
  | known (n : Int)
deriving DecidableEq, Repr

structure StoredObject where
  data : Option (List UInt8)
  contentType : Option String := none
  contentLength : StatedLength := .unstated
  etag : Option String := none
  /-- The most that a sized read returns. -/
  maxChunk : Option Nat := none
  faults : Faults := {}

inductive Reply where
  | object (o : StoredObject)
  | failure (e : Failure)

structure Entry where
  location : Location
  reply : Reply

/-- An object that was fetched, with what became of its stream. -/
structure Fetched where
  object : StoredObject
  rest : List UInt8
  reads : Nat := 0
  streamClosed : Bool := false
  opens : Nat := 0
  closes : Nat := 0

structure Stage where
  /-- The entries, of which the last one for a location counts. -/
  entries : List Entry := []
  fetched : List Fetched := []
  /-- What each run of the factory comes to; the last outcome repeats. -/
  outcomes : List (Option Failure) := []
  runs : Nat := 0
  clients : Nat := 0
  connections : List S3.Options := []
  /-- The numbers of the sequence delegates that were called. -/
  turns : List Nat := []
  imported : List String := []

namespace Stage

def reply? (l : Location) (stage : Stage) : Option Reply :=
  (stage.entries.reverse.find? (·.location = l)).map Entry.reply

def addEntry (e : Entry) (stage : Stage) : Stage := { stage with entries := stage.entries ++ [e] }

/-- Changes the object that was fetched as number `i`. -/
def change (i : Nat) (f : Fetched → Fetched) (stage : Stage) : Stage :=
  { stage with fetched := stage.fetched.modify i f }

end Stage

/-- Fails if there is a failure. -/
def raise? : Option Failure → Act Stage Unit
  | some e => throw e
  | none => pure ()

/-- What became of the object that was fetched as number `i`. -/
def fetchedObject (i : Nat) : Act Stage Fetched := do
  return ((← get).fetched[i]?).getD { object := { data := none }, rest := [] }

/-! ## Streams -/

/-- How much a read returns. -/
def chunkSize (o : StoredObject) (rest : List UInt8) : Option Nat → Nat
  | none => rest.length
  | some n => match o.maxChunk with
    | some most => min n most
    | none => n

def readStream (i : Nat) (size : Option Nat) : Act Stage (List UInt8) := do
  let f ← fetchedObject i
  if f.streamClosed then throw (.invalidValue "I/O operation on closed file.")
  if let some (after, e) := f.object.faults.read then
    if after ≤ f.reads then throw e
  let n := chunkSize f.object f.rest size
  modify (Stage.change i fun f ↦ { f with reads := f.reads + 1, rest := f.rest.drop n })
  return f.rest.take n

def closeStream (i : Nat) : Act Stage Unit := do
  let f ← fetchedObject i
  modify (Stage.change i fun f ↦ { f with streamClosed := true })
  raise? f.object.faults.bodyClose

/-- Every read that returns anything leaves fewer bytes. -/
def remaining (i : Nat) (stage : Stage) : Nat :=
  ((stage.fetched[i]?).map fun f ↦ f.rest.length).getD 0

def stream (i : Nat) : Stream Stage := ⟨i, readStream i, remaining i, closeStream i⟩

/-! ## A store of its own -/

def openHandle (i : Nat) (closed : Bool) : Act Stage (Option (Stream Stage)) := do
  let f ← fetchedObject i
  modify (Stage.change i fun f ↦ { f with opens := f.opens + 1 })
  if closed then throw (.invalidValue "handle is closed")
  raise? f.object.faults.openStream
  return some (stream i)

def closeHandle (i : Nat) : Act Stage Unit := do
  let f ← fetchedObject i
  modify (Stage.change i fun f ↦ { f with closes := f.closes + 1 })
  closeStream i
  raise? f.object.faults.close

def contentType (i : Nat) : Act Stage (Option String) := do
  let f ← fetchedObject i
  raise? f.object.faults.contentType
  return f.object.contentType

def contentLength (i : Nat) : Act Stage (Option Int) := do
  let f ← fetchedObject i
  raise? f.object.faults.contentLength
  return match f.object.contentLength with
    | .unstated => some (f.object.data.getD []).length
    | .unknown => none
    | .known n => some n

def handle (i : Nat) : Handle Stage where
  contentType := contentType i
  contentLength := contentLength i
  openStream := openHandle i
  release _ := closeHandle i

/-- Adds an object to those that were fetched, and returns its number. -/
def addFetched (o : StoredObject) : Act Stage Nat := do
  let i := (← get).fetched.length
  let fetched : Fetched := { object := o, rest := o.data.getD [] }
  modify fun stage ↦ { stage with fetched := stage.fetched ++ [fetched] }
  return i

def missing (l : Location) : Failure :=
  let text := "The specified key does not exist: " ++ l.key
  ⟨S3.storageFault text (some "NoSuchKey") (.int 404), []⟩

def fetch (l : Location) : Act Stage (Handle Stage) := do
  match (← get).reply? l with
  | none => throw (missing l)
  | some (.failure e) => throw e
  | some (.object o) => return handle (← addFetched o)

/-- A client over the entries of the stage. -/
def client (number : Nat) : Client Stage := ⟨number, fetch⟩

/-! ## A service behind a connection -/

/-- The answer of a service that has no object of the requested name. -/
def noSuchKey : Value :=
  .dict [
    (.text "Error", .dict [
      (.text "Code", .text "NoSuchKey"),
      (.text "Message", .text "The specified key does not exist.")]),
    (.text "ResponseMetadata", .dict [(.text "HTTPStatusCode", .int 404)])]

/-- The failure that an error response stands for, or that of a response which cannot be read. -/
def serviceFailure (response : Value) (operation : String) : Failure :=
  match S3.serviceFault response operation with
  | .ok f => ⟨f, []⟩
  | .error e => e

/-- A service failure whose response was replaced afterwards. -/
def replaceResponse (response : Value) (e : Failure) : Failure :=
  match e.fault.family with
  | .service _ => { e with fault := { e.fault with family := .service response } }
  | _ => e

def getObject (l : Location) : Act Stage (S3.Response Stage) := do
  match (← get).reply? l with
  | none => throw (serviceFailure noSuchKey "GetObject")
  | some (.failure e) => throw e
  | some (.object o) =>
    let body ← match o.data with
      | some _ => do pure (some (stream (← addFetched o)))
      | none => pure none
    return {
      contentType := o.contentType
      contentLength := match o.contentLength with
        | .known n => some n
        | _ => none
      etag := o.etag
      body }

/-- Makes a connection and takes down the options it was made with. -/
def connect (options : S3.Options) : Act Stage (S3.Connection Stage) := do
  let number := (← get).connections.length
  modify fun stage ↦ { stage with connections := stage.connections ++ [options] }
  return ⟨number, getObject⟩

/-! ## Factories -/

/-- Runs a factory of the given client: the outcome of the run, and a client of the next number if
it is a success. -/
def build (make : Nat → Client Stage) : Act Stage (Client Stage) := do
  let stage ← get
  set { stage with runs := stage.runs + 1 }
  raise? ((stage.outcomes[stage.runs]?).getD (stage.outcomes.getLast?.getD none))
  modify fun stage ↦ { stage with clients := stage.clients + 1 }
  return make stage.clients

end ObjectLookup.Scripted
