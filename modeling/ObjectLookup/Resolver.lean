import ObjectLookup.ContentSource
import ObjectLookup.Format
import ObjectLookup.Storage.Shared
import ObjectLookup.Strategy

/-! # Resolvers

A resolver answers the questions about one identifier: where its object is, whether it can be read,
what format it has, and what its bytes are. It remembers the location, the format, and the first
failure of a lookup or a fetch, which every later lookup and fetch reports again without turning to
the outside.
-/

namespace ObjectLookup

/-- What a resolver has at hand: modules to import, and a way to build the storage client. -/
structure Host (σ : Type) where
  importer : Importer σ
  factory : Factory σ

structure Resolver (σ : Type) where
  identifier : Identifier
  settings : Settings
  /-- The strategy, once it is known. -/
  strategy : Option (Strategy σ) := none
  /-- The delegate to use if the settings select the dynamic strategy. -/
  delegate : Option (Delegate σ) := none
  context : Context := .empty
  /-- The location, once it is resolved. -/
  resolved : Option Location := none
  /-- The format, once it is determined. -/
  recognised : Option Format := none
  /-- The first failure. -/
  failure : Option Failure := none

namespace Resolver

variable {σ : Type}

/-! ## Location -/

/-- The strategy, selected from the settings if there is none yet. -/
def getStrategy (host : Host σ) (r : Resolver σ) (s : Session σ) :
    Except Failure (Strategy σ) × Session σ :=
  match r.strategy with
  | some strategy => (.ok strategy, s)
  | none => Strategy.select host.importer r.settings r.delegate s

/-- A failure of the taxonomy is reported as it is, any other one as a failed lookup. -/
def lookupFailure (identifier : Identifier) (e : Failure) : Failure :=
  match e.kind? with
  | some _ => e
  | none =>
    .because
      (.ofKind .externalSubsystem ("Lookup failed for " ++ identifier.value ++ ": " ++ e.text)) e

/-- Resolves the location and remembers it, or the failure. -/
def resolve (host : Host σ) (r : Resolver σ) (s : Session σ) : Step (Resolver σ) σ Location :=
  match r.getStrategy host s with
  | (.error e, s) =>
    let failure := lookupFailure r.identifier e
    ⟨.error failure, { r with failure := some failure }, s⟩
  | (.ok strategy, s) =>
    let r := { r with strategy := some strategy }
    match strategy.resolve r.identifier r.context (s.record .consulted) with
    | (.error e, s) =>
      let failure := lookupFailure r.identifier e
      ⟨.error failure, { r with failure := some failure }, s⟩
    | (.ok l, s) =>
      ⟨.ok l, { r with resolved := some l },
        s.log .debug .resolver ("Resolved " ++ r.identifier.value ++ " to " ++ l.uri)⟩

/-- The location of the object, resolved when it is first asked for. -/
def location (host : Host σ) (r : Resolver σ) (s : Session σ) : Step (Resolver σ) σ Location :=
  match r.failure, r.resolved with
  | some e, _ => ⟨.error e, r, s⟩
  | none, some l => ⟨.ok l, r, s⟩
  | none, none => r.resolve host s

/-! ## Fetching -/

/-- Asks the shared client for an object. -/
def request (host : Host σ) (l : Location) (s : Session σ) :
    Except Failure (Handle σ) × Session σ :=
  match s.getClient host.factory with
  | (.error e, s) => (.error e, s)
  | (.ok client, s) =>
    let s := s.log .info .resolver ("Requesting " ++ l.key ++ " from bucket " ++ l.bucket)
    (s.record (.requested l)).perform (client.fetch l)

def fetchFailure (l : Location) (e : Failure) : Failure :=
  .because (.ofKind e.fetchKind (l.text ++ ": " ++ e.text)) e

/-- Fetches the object. Whoever gets the handle has to close it. -/
def fetch (host : Host σ) (r : Resolver σ) (s : Session σ) : Step (Resolver σ) σ (Handle σ) :=
  let step := r.location host s
  match step.result with
  | .error e => ⟨.error e, step.self, step.session⟩
  | .ok l =>
    match request host l step.session with
    | (.ok h, s) => ⟨.ok h, step.self, s⟩
    | (.error e, s) =>
      let failure := fetchFailure l e
      ⟨.error failure, { step.self with failure := some failure }, s⟩

/-! ## Questions -/

/-- Succeeds if the object exists and can be read. -/
def checkAccess (host : Host σ) (r : Resolver σ) (s : Session σ) : Step (Resolver σ) σ Unit :=
  let step := r.fetch host s
  match step.result with
  | .error e => ⟨.error e, step.self, step.session⟩
  | .ok h =>
    let (result, s) := step.session.perform h.close
    ⟨result, step.self, s⟩

/-- Reads the content type of a handle and closes it, whatever comes of the reading. A failure to
close takes the place of one to read. -/
def takeContentType (h : Handle σ) (s : Session σ) : Except Failure (Option String) × Session σ :=
  let (contentType, s) := s.perform h.contentType
  match s.perform h.close with
  | (.ok (), s) => (contentType, s)
  | (.error e, s) => (.error e, s)

/-- The format that a content type stands for. One that is not a media type is ignored. -/
def formatOfType (identifier : Identifier) (contentType : Option String) (s : Session σ) :
    Format × Session σ :=
  match given? contentType with
  | none => (.unknown, s)
  | some t =>
    match MediaType.parse? t with
    | some m => (.ofMediaType m, s)
    | none =>
      (.unknown,
        s.log .debug .resolver
          ("Ignoring unparseable Content-Type " ++ Text.quoted t ++ " for " ++ identifier.value))

/-- Determines the format of a fetched object: by its content type, else by the extension of the
identifier, else by the extension of the key. -/
def formatOfHandle (host : Host σ) (r : Resolver σ) (h : Handle σ) (s : Session σ) :
    Step (Resolver σ) σ Format :=
  match takeContentType h s with
  | (.error e, s) => ⟨.error e, r, s⟩
  | (.ok contentType, s) =>
    let (format, s) := formatOfType r.identifier contentType s
    if format ≠ .unknown then ⟨.ok format, r, s⟩
    else if Format.ofFileName r.identifier.value ≠ .unknown then
      ⟨.ok (.ofFileName r.identifier.value), r, s⟩
    else
      let step := r.location host s
      ⟨step.result.map fun l ↦ .ofFileName l.key, step.self, step.session⟩

/-- The format of the object, determined when it is first asked for. -/
def resolveFormat (host : Host σ) (r : Resolver σ) (s : Session σ) : Step (Resolver σ) σ Format :=
  match r.recognised with
  | some f => ⟨.ok f, r, s⟩
  | none =>
    let step := r.fetch host s
    match step.result with
    | .error e => ⟨.error e, step.self, step.session⟩
    | .ok h =>
      let step := step.self.formatOfHandle host h step.session
      match step.result with
      | .error e => ⟨.error e, step.self, step.session⟩
      | .ok f => ⟨.ok f, { step.self with recognised := some f }, step.session⟩

/-- Fetches the object and makes its content available. Whoever gets the source has to close it. -/
def openStream (host : Host σ) (r : Resolver σ) (s : Session σ) :
    Step (Resolver σ) σ (ContentSource σ) :=
  let step := r.fetch host s
  ⟨step.result.map fun h ↦ ⟨h, none, false⟩, step.self, step.session⟩

/-! ## First laws -/

theorem location_of_failure {host : Host σ} {r : Resolver σ} {e : Failure}
    (h : r.failure = some e) (s : Session σ) : r.location host s = ⟨.error e, r, s⟩ := by
  simp [location, h]

theorem location_of_resolved {host : Host σ} {r : Resolver σ} {l : Location}
    (hf : r.failure = none) (hl : r.resolved = some l) (s : Session σ) :
    r.location host s = ⟨.ok l, r, s⟩ := by simp [location, hf, hl]

theorem fetch_of_failure {host : Host σ} {r : Resolver σ} {e : Failure}
    (h : r.failure = some e) (s : Session σ) : r.fetch host s = ⟨.error e, r, s⟩ := by
  simp [fetch, location_of_failure h]

theorem resolveFormat_of_recognised {host : Host σ} {r : Resolver σ} {f : Format}
    (h : r.recognised = some f) (s : Session σ) : r.resolveFormat host s = ⟨.ok f, r, s⟩ := by
  simp [resolveFormat, h]

end Resolver

end ObjectLookup
