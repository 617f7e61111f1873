import ObjectLookup.Entries
import ObjectLookup.Failure
import ObjectLookup.Text.Blank
import ObjectLookup.Text.Split

/-! # Context entries on the command line

An entry is `KEY=VALUE`: the key is what stands before the first equals sign, without the blanks
around it, and the value all that follows.
-/

namespace ObjectLookup.CommandLine

/-- Reads one entry. Its key may not be blank. -/
def entry? (s : String) : Option (String × String) :=
  match Text.cutFirst? '=' s.toList with
  | some (k, v) =>
    let key := Text.trimChars k
    if key = [] then none else some (String.ofList key, String.ofList v)
  | none => none

def entryFailure (s : String) : Failure :=
  .invalidValue ("Invalid context entry, expected KEY=VALUE: " ++ s)

def entry (s : String) : Except Failure (String × String) :=
  match entry? s with
  | some e => .ok e
  | none => .error (entryFailure s)

/-- Reads all entries in order, or fails with the first that is none. -/
def contextEntries (pairs : List String) : Except Failure (Entries String) :=
  (pairs.mapM entry).map Entries.ofPairs

example : entry? " tenant = a=b" = some ("tenant", " a=b") := by decide +kernel
example : entry? " =x" = none := by decide +kernel

end ObjectLookup.CommandLine
