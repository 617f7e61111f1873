import ObjectLookup.Location

/-! # Storage seen from outside

An action reads and changes a state `σ` that stands for everything outside of the program, and may
fail; what it did to the state stays done. Streams, handles and clients are records of such actions,
so that nothing is assumed about how a store behaves, or whether it behaves the same way twice. The
one thing that an action cannot do is to call back into the resolver that turned to it.
-/

namespace ObjectLookup

/-- An action on the outside. -/
abbrev Act (σ : Type) := ExceptT Failure (StateM σ)

/-- A stream of bytes that is open for reading. -/
structure Stream (σ : Type) where
  /-- Two streams of one number are the same stream. -/
  number : Nat
  /-- Reads at most the given number of bytes, or all that is left. -/
  read : Option Nat → Act σ (List UInt8)
  /-- A bound on how many more reads return anything. -/
  remaining : σ → Nat
  close : Act σ Unit

/-- A fetched object. It knows whether it has been closed, and that is for its actions to go by. -/
structure Handle (σ : Type) where
  contentType : Act σ (Option String)
  contentLength : Act σ (Option Int)
  /-- Gives the stream, or nothing if the object came without a body. -/
  openStream : (closed : Bool) → Act σ (Option (Stream σ))
  release : (closed : Bool) → Act σ Unit
  closed : Bool := false

namespace Handle

variable {σ : Type}

def stream (h : Handle σ) : Act σ (Option (Stream σ)) := h.openStream h.closed

def close (h : Handle σ) : Act σ Unit := h.release h.closed

/-- The handle once `close` was called on it, whether that succeeded or not. -/
def afterClose (h : Handle σ) : Handle σ := { h with closed := true }

@[simp] theorem closed_afterClose (h : Handle σ) : h.afterClose.closed = true := rfl
@[simp] theorem contentType_afterClose (h : Handle σ) :
    h.afterClose.contentType = h.contentType := rfl

end Handle

/-- Access to the objects of a store. -/
structure Client (σ : Type) where
  /-- Two clients of one number are the same client. -/
  number : Nat
  fetch : Location → Act σ (Handle σ)

/-! ## Classification -/

/-- Service codes that say that there is no such object. -/
def notFoundCodes : List String := ["NoSuchKey", "NotFound", "404"]

/-- Service codes that say that the object may not be read. -/
def accessDeniedCodes : List String :=
  ["AccessDenied", "Forbidden", "403", "AllAccessDisabled", "InvalidAccessKeyId",
    "SignatureDoesNotMatch"]

/-- The kind of a storage failure. The status counts only where there is no code, as in an answer
without a body; a code that is not known never counts as a missing object. -/
def classify (code : Option String) (status : Value) : ErrorKind :=
  let code := code.getD ""
  if code ∈ notFoundCodes then .notFound
  else if code ∈ accessDeniedCodes then .accessDenied
  else if code = "" ∧ status.equalsInt 404 then .notFound
  else if code = "" ∧ status.equalsInt 403 then .accessDenied
  else .storageFailure

/-- The kind under which a failed fetch is reported. -/
def Failure.fetchKind (e : Failure) : ErrorKind :=
  match e.fault.family with
  | .storage code status => classify code status
  | _ => .storageFailure

end ObjectLookup
