import ObjectLookup.Entries
import ObjectLookup.Location

/-! # The journal of a run

The journal lists what the program did, in order: its log calls, and every time that it turned to
something outside of itself.
-/

namespace ObjectLookup

inductive Level where
  | debug | info | error
deriving DecidableEq, Repr

def Level.name : Level → String
  | .debug => "DEBUG"
  | .info => "INFO"
  | .error => "ERROR"

/-- The parts of the program that write log lines. -/
inductive Component where
  | resolver | strategies | delegate | sharedClient | service
deriving DecidableEq, Repr

/-- The name that a log line is written under. -/
def Component.logger : Component → String
  | .resolver => "s3_resolver.resolver"
  | .strategies => "s3_resolver.strategies"
  | .delegate => "s3_resolver.delegate"
  | .sharedClient => "s3_resolver.storage.shared"
  | .service => "s3_resolver.storage.s3"

/-- A log call. Where a failure is logged along with the message, as that of a delegate is, the
record is without it: its traceback is left out. -/
structure LogRecord where
  level : Level
  component : Component
  message : String
deriving DecidableEq, Repr

def LogRecord.line (r : LogRecord) : String :=
  r.level.name ++ " " ++ r.component.logger ++ ": " ++ r.message

/-- The named values that accompany a request. -/
abbrev Context := Entries Value

/-- Where a delegate came from. -/
inductive Origin where
  | supplied
  | loaded (target : String)
deriving DecidableEq, Repr

inductive Event where
  | logged (record : LogRecord)
  /-- A lookup strategy was selected from settings, or was to be. -/
  | selected
  /-- A lookup strategy was asked for a location. -/
  | consulted
  /-- A delegate target was imported, or was to be. -/
  | imported (target : String)
  /-- A delegate was called. -/
  | called (origin : Origin) (identifier : String) (context : Context)
  /-- The factory of the storage client was run. -/
  | built
  /-- A storage client was asked for an object. -/
  | requested (location : Location)

namespace Event

def record? : Event → Option LogRecord
  | .logged r => some r
  | _ => none

def location? : Event → Option Location
  | .requested l => some l
  | _ => none

/-- A call of a delegate that was supplied and not loaded. -/
def suppliedCall? : Event → Option (String × Context)
  | .called .supplied identifier context => some (identifier, context)
  | _ => none

def isBuilt : Event → Bool
  | .built => true
  | _ => false

end Event

end ObjectLookup
