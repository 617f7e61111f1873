import ObjectLookup.S3.Client

/-! # A connection to nowhere

Without a transport no request gets an answer: each one fails before it reaches a service.
-/

namespace ObjectLookup.S3

variable {σ : Type}

/-- The address that requests would go to. -/
def Options.address (o : Options) : String := o.endpoint.getD "https://s3.amazonaws.com"

def unreachable (address : String) : Failure :=
  ⟨⟨"EndpointConnectionError", "Could not connect to the endpoint URL: \"" ++ address ++ "\"",
    .transport⟩, []⟩

/-- A connection that is made at once, and over which every request fails. -/
def offline (o : Options) : Act σ (Connection σ) :=
  return ⟨0, fun _ ↦ throw (unreachable o.address)⟩

end ObjectLookup.S3
