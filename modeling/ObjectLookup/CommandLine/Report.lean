import ObjectLookup.Failure
import ObjectLookup.Text.ControlSequence

/-! # Reporting a failure

A command that fails says so in one line and exits with a code that goes by the name of the failed
class.
-/

namespace ObjectLookup.CommandLine

/-- The exit code for a class: `1` for a missing object, `2` for a mistake in the input or in the
configuration, `4` for a refused one, and `3` for everything else. -/
def exitCode (className : String) : Nat :=
  if className = "ObjectNotFound" then 1
  else if className ∈ ["InvalidConfiguration", "InvalidDelegateResult", "ValueError"] then 2
  else if className = "AccessDenied" then 4
  else 3

/-- A line as it is printed where no terminal reads it. -/
def printed (line : String) : String := Text.withoutSequences line ++ "\n"

def errorLine (e : Failure) : String := printed ("Error: " ++ e.fault.name ++ ": " ++ e.text)

/-- The exit code for a kind of the taxonomy. -/
def kindCode : ErrorKind → Nat
  | .notFound => 1
  | .invalidConfiguration | .invalidDelegateResult => 2
  | .storageFailure | .externalSubsystem => 3
  | .accessDenied => 4

theorem exitCode_className (k : ErrorKind) : exitCode k.className = kindCode k := by
  cases k <;> decide

end ObjectLookup.CommandLine
