import ObjectLookup.Journal
import ObjectLookup.Storage

/-! # Sessions

A session is what the resolvers of one process share: the state of the outside, the storage client
once it has been built, and the journal.
-/

namespace ObjectLookup

structure Session (σ : Type) where
  outside : σ
  client : Option (Client σ) := none
  /-- The events so far, newest first. -/
  journal : List Event := []

namespace Session

variable {σ α : Type}

/-! ## Views of the journal -/

def events (s : Session σ) : List Event := s.journal.reverse

/-- The log calls, oldest first. -/
def logs (s : Session σ) : List LogRecord := s.events.filterMap Event.record?

/-- The locations that a client was asked for, oldest first. -/
def requests (s : Session σ) : List Location := s.events.filterMap Event.location?

/-- The calls of supplied delegates, oldest first. -/
def delegateCalls (s : Session σ) : List (String × Context) :=
  s.events.filterMap Event.suppliedCall?

/-- How often a factory was run. -/
def built (s : Session σ) : Nat := s.journal.countP Event.isBuilt

def initialized (s : Session σ) : Bool := s.client.isSome

/-! ## Steps -/

def record (e : Event) (s : Session σ) : Session σ := { s with journal := e :: s.journal }

def log (level : Level) (component : Component) (message : String) (s : Session σ) : Session σ :=
  s.record (.logged ⟨level, component, message⟩)

/-- Performs an action on the outside. -/
def perform (a : Act σ α) (s : Session σ) : Except Failure α × Session σ :=
  let (result, outside) := a s.outside
  (result, { s with outside })

@[simp] theorem events_record (e : Event) (s : Session σ) :
    (s.record e).events = s.events ++ [e] := by simp [events, record]

@[simp] theorem client_record (e : Event) (s : Session σ) : (s.record e).client = s.client := rfl
@[simp] theorem outside_record (e : Event) (s : Session σ) : (s.record e).outside = s.outside := rfl
@[simp] theorem client_log (l : Level) (c : Component) (m : String) (s : Session σ) :
    (s.log l c m).client = s.client := rfl
@[simp] theorem outside_log (l : Level) (c : Component) (m : String) (s : Session σ) :
    (s.log l c m).outside = s.outside := rfl
@[simp] theorem events_perform (a : Act σ α) (s : Session σ) :
    (s.perform a).2.events = s.events := rfl
@[simp] theorem client_perform (a : Act σ α) (s : Session σ) :
    (s.perform a).2.client = s.client := rfl

end Session

end ObjectLookup
