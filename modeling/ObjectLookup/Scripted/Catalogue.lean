import ObjectLookup.Delegate.Load
import ObjectLookup.Scripted.Store

/-! # Catalogues of modules

A catalogue lists the modules that can be imported. Importing a module imports every package on the
way to it first; a submodule becomes a member of its package once it was imported.
-/

namespace ObjectLookup.Scripted

structure Module where
  name : String
  /-- Whether the module may have submodules. -/
  isPackage : Bool := false
  members : List (String × Member Stage) := []
  /-- What importing the module fails with. -/
  failure : Option Failure := none

abbrev Catalogue := List Module

/-! ## Members -/

/-- Looks a name up among members. -/
def lookupMember (members : List (String × Member Stage)) (otherwise : String → Fault)
    (name : String) : Except Failure (Member Stage) :=
  match members.find? (·.1 = name) with
  | some m => .ok m.2
  | none => .error ⟨otherwise name, []⟩

/-- A function, which has no members. -/
def function (f : String → Context → Except Failure Value) : Member Stage :=
  .mk (some fun identifier context ↦ return (f identifier context, context))
    fun name ↦ .error ⟨.noMember "function" name, []⟩

/-- A value that is no function, of a type of the given name. -/
def plain (typeName : String) : Member Stage :=
  .mk none fun name ↦ .error ⟨.noMember typeName name, []⟩

/-- A class. It can be called, but takes no arguments. -/
def classMember (className : String) (members : List (String × Member Stage)) : Member Stage :=
  .mk (some fun _ context ↦
      return (.error ⟨.other "TypeError" (className ++ "() takes no arguments"), []⟩, context))
    (lookupMember members fun name ↦ .other "AttributeError"
      ("type object '" ++ className ++ "' has no attribute '" ++ name ++ "'"))

def moduleMember (moduleName : String) (members : List (String × Member Stage)) : Member Stage :=
  .mk none (lookupMember members fun name ↦ .other "AttributeError"
    ("module '" ++ moduleName ++ "' has no attribute '" ++ name ++ "'"))

/-! ## Importing -/

namespace Catalogue

/-- The dotted names on the way to a module, its own name last. -/
def path (name : String) : List String :=
  let parts := Text.pieces '.' name.toList
  (List.range parts.length).map fun n ↦
    String.ofList (List.intercalate ['.'] (parts.take (n + 1)))

def get? (c : Catalogue) (name : String) : Option Module := List.find? (·.name = name) c

/-- The fault for a module that is not in the catalogue, below `parent` if it is a submodule. -/
def noModule (name : String) (parent : Option Module) : Fault :=
  .other "ModuleNotFoundError" ("No module named " ++ Text.quoted name ++
    match parent with
    | some m => if m.isPackage then "" else "; " ++ Text.quoted m.name ++ " is not a package"
    | none => "")

/-- Imports the modules of the given names one after the other; returns the last one. -/
def importAll (c : Catalogue) (parent : Option Module) : List String → Act Stage (Option Module)
  | [] => return parent
  | name :: names => do
    match c.get? name with
    | none => throw ⟨noModule name parent, []⟩
    | some m =>
      raise? m.failure
      modify fun stage ↦ { stage with imported := name :: stage.imported }
      importAll c (some m) names

/-- The submodules of a package that were imported, under their names in the package. -/
def submodules (c : Catalogue) (m : Module) (imported : List String) :
    List (String × Member Stage) :=
  c.filterMap fun sub ↦
    match Text.cutLast? '.' sub.name.toList with
    | some (package, name) =>
      if String.ofList package = m.name ∧ sub.name ∈ imported then
        some (String.ofList name, moduleMember sub.name sub.members)
      else none
    | none => none

/-- Imports a module and everything on the way to it. -/
def importModule (c : Catalogue) : Importer Stage := fun name ↦ do
  match ← c.importAll none (path name) with
  | none => throw ⟨noModule name none, []⟩
  | some m => return moduleMember m.name (m.members ++ c.submodules m (← get).imported)

end Catalogue

end ObjectLookup.Scripted
