import ObjectLookup.Session

/-! # Delegates

A delegate is a function from outside that decides which object backs an identifier. Where delegates
are disabled, or the one that was asked for could not be loaded, a stand-in takes its place, which
fails when it is called.

A delegate acts on the outside and on the mapping that it is given. It does not call back into the
resolver that asks it.
-/

namespace ObjectLookup

/-- The name of the delegate call in messages. -/
def getObjectKey : String := "S3Resolver::get_object_key"

/-- What a delegate does with an identifier and a mapping: it answers or fails, and leaves the
mapping with other entries perhaps. -/
abbrev Lookup (σ : Type) := String → Context → StateM σ (Except Failure Value × Context)

/-- What a delegate answers, as an action on the outside. -/
def Lookup.answer {σ : Type} (run : Lookup σ) (identifier : String) (context : Context) :
    Act σ Value := fun outside ↦
  ((run identifier context outside).1.1, (run identifier context outside).2)

inductive Delegate (σ : Type) where
  | disabled
  | unloadable (target : String) (cause : Failure)
  | callable (origin : Origin) (run : Lookup σ)

namespace Delegate

variable {σ : Type}

def disabledFault : Fault :=
  ⟨"DelegateDisabledError", getObjectKey ++ " invoked but delegates are disabled",
    .delegateDisabled⟩

def loadFault (target : String) (cause : Failure) : Fault :=
  .other "DelegateLoadError" ("Cannot load delegate " ++ target ++ ": " ++ cause.text)

/-- Calls a delegate. -/
def call (d : Delegate σ) (identifier : String) (context : Context) (s : Session σ) :
    Except Failure Value × Session σ :=
  match d with
  | .disabled => (.error ⟨disabledFault, []⟩, s)
  | .unloadable target cause => (.error (.because (loadFault target cause) cause), s)
  | .callable origin run =>
    (s.record (.called origin identifier context)).perform (run.answer identifier context)

/-- What a call leaves of the mapping that the delegate is given. -/
def leaves (d : Delegate σ) (identifier : String) (context : Context) (s : Session σ) : Context :=
  match d with
  | .disabled | .unloadable _ _ => context
  | .callable _ run => (run identifier context s.outside).1.2

end Delegate

end ObjectLookup
