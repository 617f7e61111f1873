import ObjectLookup.Resolver
import ObjectLookup.S3.Client

/-! # The application

An application holds what outlives a single lookup: the settings, and the delegate once it is
loaded. Resolvers are made from it, one per identifier.
-/

namespace ObjectLookup

structure Application (σ : Type) where
  settings : Settings
  delegate : Option (Delegate σ) := none

namespace Application

variable {σ : Type}

/-- The delegate, loaded when it is first asked for. -/
def getDelegate (importer : Importer σ) (a : Application σ) (s : Session σ) :
    Delegate σ × Application σ × Session σ :=
  match a.delegate with
  | some d => (d, a, s)
  | none =>
    let (d, s) := Delegate.load importer a.settings s
    (d, { a with delegate := some d }, s)

/-- A resolver for an identifier. The delegate is asked for only if the settings select the dynamic
strategy; selecting the strategy itself is left to the resolver. -/
def resolverFor (importer : Importer σ) (a : Application σ) (identifier : Identifier)
    (context : Context) (s : Session σ) : Resolver σ × Application σ × Session σ :=
  match Selector.ofSettings? a.settings with
  | some .dynamic =>
    let (d, a, s) := a.getDelegate importer s
    ({ identifier, settings := a.settings, delegate := some d, context }, a, s)
  | _ => ({ identifier, settings := a.settings, context }, a, s)

end Application

end ObjectLookup
