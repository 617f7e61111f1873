import ObjectLookup.Session

/-! # The shared storage client

The storage client is built when it is first needed, once for all resolvers of a session. A factory
that fails leaves nothing behind but its log lines, so the next caller tries again.
-/

namespace ObjectLookup

/-- How the storage client is built, and what is logged before. -/
structure Factory (σ : Type) where
  notes : List LogRecord := []
  run : Act σ (Client σ)

namespace Session

variable {σ : Type}

/-- Runs the factory and keeps the client. -/
def buildClient (factory : Factory σ) (s : Session σ) : Except Failure (Client σ) × Session σ :=
  let s := s.log .debug .sharedClient "Constructing shared storage client"
  let s := factory.notes.foldl (fun s r ↦ s.record (.logged r)) (s.record .built)
  match s.perform factory.run with
  | (.ok c, s) => (.ok c, { s with client := some c })
  | (.error e, s) => (.error e, s)

/-- The shared client, built now if this is the first call. -/
def getClient (factory : Factory σ) (s : Session σ) : Except Failure (Client σ) × Session σ :=
  match s.client with
  | some c => (.ok c, s)
  | none => s.buildClient factory

theorem getClient_of_some {factory : Factory σ} {s : Session σ} {c : Client σ}
    (h : s.client = some c) : s.getClient factory = (.ok c, s) := by simp [getClient, h]

theorem getClient_of_none {factory : Factory σ} {s : Session σ} (h : s.client = none) :
    s.getClient factory = s.buildClient factory := by simp [getClient, h]

end Session

end ObjectLookup
