import ObjectLookup.S3.Object
import ObjectLookup.Settings
import ObjectLookup.Storage.Shared

/-! # The S3 storage client

A storage client over a connection to an S3 service. Requests are made once: a failure comes up at
once, and is for the resolver to classify.
-/

namespace ObjectLookup.S3

/-- What a connection is made with. -/
structure Options where
  service : String := "s3"
  region : Option String := none
  endpoint : Option String := none
  accessKeyId : Option String := none
  secretKey : Option String := none
  signatureVersion : String := "s3v4"
  retryMode : String := "standard"
  maxAttempts : Nat := 1
  connectTimeout : Decimal.Binary64
  readTimeout : Decimal.Binary64
deriving DecidableEq, Repr

/-- The options that settings call for. Credentials are used only if they are complete. -/
def Options.ofSettings (settings : Settings) : Options where
  region := given? settings.bucketRegion
  endpoint := given? settings.endpointUrl
  accessKeyId := if settings.hasCredentials then settings.accessKeyId else none
  secretKey := if settings.hasCredentials then settings.secretKey else none
  connectTimeout := settings.connectTimeout
  readTimeout := settings.readTimeout

/-- A connection to a service. -/
structure Connection (σ : Type) where
  number : Nat
  getObject : Location → Act σ (Response σ)

variable {σ : Type}

/-- Requests an object, and reports a failure in its neutral form. -/
def Connection.fetch (c : Connection σ) (l : Location) : Act σ (Object σ) :=
  .mk fun o ↦
    match c.getObject l o with
    | (.ok response, o) => (.ok ⟨l, response, false⟩, o)
    | (.error e, o) => (.error (neutral l e), o)

/-- Requests an object in a session. -/
def Connection.request (c : Connection σ) (l : Location) (s : Session σ) :
    Except Failure (Object σ) × Session σ :=
  (s.record (.requested l)).perform (c.fetch l)

def Connection.client (c : Connection σ) : Client σ where
  number := c.number
  fetch l := Object.handle <$> c.fetch l

def note (message : String) : LogRecord := ⟨.debug, .service, message⟩

/-- What is logged about a connection before it is made, secrets left out. -/
def notes (settings : Settings) : List LogRecord :=
  let access :=
    if settings.hasCredentials then
      "S3 client using configured access key in region " ++
        (given? settings.bucketRegion).getD "default"
    else "S3 client using default boto3 credential chain"
  match given? settings.endpointUrl with
  | some url => [note access, note ("S3 client using custom endpoint: " ++ url)]
  | none => [note access]

/-- The factory of the client that settings describe. -/
def factory (connect : Options → Act σ (Connection σ)) (settings : Settings) : Factory σ where
  notes := notes settings
  run := Connection.client <$> connect (.ofSettings settings)

end ObjectLookup.S3
