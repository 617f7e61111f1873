import ObjectLookup.CommandLine
import ObjectLookup.S3.Offline
import ObjectLookup.Scripted.Catalogue

/-! # The program

Takes the arguments and the environment variables, runs the command line, and prints what comes of
it. The program has no modules to import and no transport to a service. So it never gets at an
object, and there are no files for it to write.
-/

namespace ObjectLookup.CommandLine

/-- No modules, and no way to a service. -/
def isolated : Surroundings Scripted.Stage := ⟨Scripted.Catalogue.importModule [], S3.offline⟩

/-- The variables of the environment that settings are made from. -/
def readVariables : IO Settings.Variables := do
  let values ← Settings.Variable.all.filterMapM fun v ↦ do
    return (← IO.getEnv v.name).map fun value ↦ (v.name, value)
  return .ofPairs values

/-- Prints what a run came to. -/
def Ending.print (ending : Ending Scripted.Stage) : IO Unit := do
  IO.print ending.output
  IO.eprint ending.errors
  match ending.misuse with
  | some .usage => IO.eprint usage
  | some .help => IO.print usage
  | none => return

end ObjectLookup.CommandLine

open ObjectLookup.CommandLine in
def main (arguments : List String) : IO UInt32 := do
  let ending := run isolated (← readVariables) arguments {} ⟨[], []⟩
  ending.print
  return ending.exitCode.toUInt32
