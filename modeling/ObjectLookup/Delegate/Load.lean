import ObjectLookup.Delegate
import ObjectLookup.Settings
import ObjectLookup.Text.Split

/-! # Loading a delegate

A delegate target names a module and the path of one of its members. Loading never fails: what goes
wrong is kept in a stand-in, and comes up when that is called.
-/

namespace ObjectLookup

/-- Something that was imported: it may be callable, and looking up a member of it may fail. -/
inductive Member (σ : Type) where
  | mk (call? : Option (Lookup σ)) (member : String → Except Failure (Member σ))

/-- Imports a module by its name. -/
abbrev Importer (σ : Type) := String → Act σ (Member σ)

namespace Member

variable {σ : Type}

def call? : Member σ → Option (Lookup σ)
  | .mk call _ => call

def member (m : Member σ) (name : String) : Except Failure (Member σ) :=
  match m with
  | .mk _ member => member name

/-- Follows a path of members from left to right. -/
def follow : List String → Member σ → Except Failure (Member σ)
  | [], m => .ok m
  | name :: path, m =>
    match m.member name with
    | .ok n => follow path n
    | .error e => .error e

end Member

namespace Delegate

variable {σ : Type}

/-- The module of a target, which is the text before its first colon. -/
def targetModule (target : String) : String :=
  match Text.cutFirst? ':' target.toList with
  | some (m, _) => String.ofList m
  | none => target

/-- The names on the path of a target, which is the text behind its first colon. -/
def targetPath (target : String) : List String :=
  match Text.cutFirst? ':' target.toList with
  | some (_, path) => (Text.pieces '.' path).map String.ofList
  | none => [""]

/-- The target that settings ask to load. -/
def wanted? (settings : Settings) : Option String :=
  if settings.delegateEnabled then given? settings.delegateTarget else none

def notCallable (target : String) : Failure :=
  ⟨.other "TypeError" (target ++ " is not callable"), []⟩

/-- Imports a target's module and follows its path. -/
def find (importer : Importer σ) (target : String) (s : Session σ) :
    Except Failure (Member σ) × Session σ :=
  match (s.record (.imported target)).perform (importer (targetModule target)) with
  | (.ok m, s) => (m.follow (targetPath target), s)
  | (.error e, s) => (.error e, s)

/-- The delegate that settings describe, or the stand-in for it. -/
def load (importer : Importer σ) (settings : Settings) (s : Session σ) : Delegate σ × Session σ :=
  match wanted? settings with
  | none => (.disabled, s.log .debug .delegate "Delegate disabled")
  | some target =>
    match find importer target s with
    | (.error e, s) =>
      (.unloadable target e,
        s.log .error .delegate ("Failed to load delegate " ++ target ++ ": " ++ e.text))
    | (.ok m, s) =>
      match m.call? with
      | none => (.unloadable target (notCallable target), s)
      | some run =>
        (.callable (.loaded target) run, s.log .debug .delegate ("Loaded delegate " ++ target))

end Delegate

end ObjectLookup
