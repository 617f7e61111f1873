import ObjectLookup.Session

/-! # Content sources

A content source hands out the stream of one fetched object. The stream is opened when it is first
asked for, and is the same from then on, until the source is closed.
-/

namespace ObjectLookup

/-- What an operation on `self` in a session came to. -/
structure Step (ρ σ α : Type) where
  result : Except Failure α
  self : ρ
  session : Session σ

structure ContentSource (σ : Type) where
  handle : Handle σ
  stream : Option (Stream σ) := none
  closed : Bool := false

namespace ContentSource

variable {σ : Type}

def contentType (c : ContentSource σ) (s : Session σ) :
    Except Failure (Option String) × Session σ :=
  s.perform c.handle.contentType

def contentLength (c : ContentSource σ) (s : Session σ) :
    Except Failure (Option Int) × Session σ :=
  s.perform c.handle.contentLength

def closedFailure : Failure := .ofKind .storageFailure "Content source is closed"

def openFailure (e : Failure) : Failure :=
  .because (.ofKind .storageFailure ("Cannot open content stream: " ++ e.text)) e

/-- The stream of the object, opened now unless it is open already. An object without a body has
none, and is asked again the next time. -/
def newStream (c : ContentSource σ) (s : Session σ) :
    Step (ContentSource σ) σ (Option (Stream σ)) :=
  if c.closed then ⟨.error closedFailure, c, s⟩
  else match c.stream with
    | some stream => ⟨.ok (some stream), c, s⟩
    | none =>
      match s.perform c.handle.stream with
      | (.ok stream, s) => ⟨.ok stream, { c with stream }, s⟩
      | (.error e, s) => ⟨.error (openFailure e), c, s⟩

/-- What is left of the object. -/
def read (c : ContentSource σ) (s : Session σ) : Step (ContentSource σ) σ (List UInt8) :=
  let step := c.newStream s
  match step.result with
  | .error e => ⟨.error e, step.self, step.session⟩
  | .ok none => ⟨.error ⟨.noMember "NoneType" "read", []⟩, step.self, step.session⟩
  | .ok (some stream) =>
    let (bytes, s) := step.session.perform (stream.read none)
    ⟨bytes, step.self, s⟩

/-- Closes the source and its object. The source counts as closed even if that fails. -/
def close (c : ContentSource σ) (s : Session σ) : Step (ContentSource σ) σ Unit :=
  let (result, s) := s.perform c.handle.close
  ⟨result, { c with handle := c.handle.afterClose, closed := true }, s⟩

theorem newStream_of_closed {c : ContentSource σ} (h : c.closed = true) (s : Session σ) :
    c.newStream s = ⟨.error closedFailure, c, s⟩ := by simp [newStream, h]

@[simp] theorem closed_close (c : ContentSource σ) (s : Session σ) :
    (c.close s).self.closed = true := rfl

end ContentSource

end ObjectLookup
