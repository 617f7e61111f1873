import ObjectLookup.S3.ServiceError
import ObjectLookup.Storage

/-! # Objects in S3 storage

An object is closed once: the first call closes the body, every later one does nothing, even if the
body failed to close.
-/

namespace ObjectLookup.S3

/-- The answer to a request for an object, with the fields that the service sent. -/
structure Response (σ : Type) where
  contentType : Option String := none
  contentLength : Option Int := none
  etag : Option String := none
  body : Option (Stream σ) := none

structure Object (σ : Type) where
  location : Location
  response : Response σ
  closed : Bool := false

namespace Object

variable {σ : Type}

/-- The entity tag without the quotes around it, unless nothing is left of it. -/
def etag (o : Object σ) : Option String :=
  let chars := (o.response.etag.getD "").toList
  let bare := ((chars.dropWhile (· == '"')).reverse.dropWhile (· == '"')).reverse
  given? (some (String.ofList bare))

def closedFailure (l : Location) : Failure := .invalidValue ("S3 object " ++ l.uri ++ " is closed")

/-- The body, if there is one. -/
def openBody (o : Object σ) : Except Failure (Option (Stream σ)) :=
  if o.closed then .error (closedFailure o.location) else .ok o.response.body

/-- What closing the object does to its body. -/
def close (o : Object σ) : Act σ Unit :=
  match o.closed, o.response.body with
  | false, some body => body.close
  | _, _ => pure ()

/-- The object once `close` was called on it, whether that succeeded or not. -/
def afterClose (o : Object σ) : Object σ := { o with closed := true }

/-- The object as a handle of a store. -/
def handle (o : Object σ) : Handle σ where
  contentType := pure o.response.contentType
  contentLength := pure o.response.contentLength
  openStream closed := .mk (pure (openBody { o with closed }))
  release closed := close { o with closed }
  closed := o.closed

@[simp] theorem afterClose_handle (o : Object σ) : o.handle.afterClose = o.afterClose.handle := rfl

theorem close_of_closed {o : Object σ} (h : o.closed = true) : o.close = pure () := by
  simp [close, h]

end Object

end ObjectLookup.S3
