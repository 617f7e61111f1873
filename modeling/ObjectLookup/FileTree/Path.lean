import ObjectLookup.Text.Split

/-! # Paths

A path keeps the names on it and drops what says nothing: empty names, and names that stand for the
directory they are in. A step up stays, since it may lead through a link.
-/

namespace ObjectLookup

structure Path where
  /-- How many slashes the path begins with: none, one, or exactly two. -/
  slashes : Nat
  names : List String
deriving DecidableEq, Repr

namespace Path

def up : String := ".."

def ofText (s : String) : Path where
  slashes :=
    let n := (s.toList.takeWhile (· = '/')).length
    if n = 2 then 2 else min n 1
  names := ((Text.pieces '/' s.toList).map String.ofList).filter fun name ↦ name ≠ "" ∧ name ≠ "."

def text (p : Path) : String :=
  if p.slashes = 0 ∧ p.names = [] then "."
  else String.ofList (List.replicate p.slashes '/') ++ "/".intercalate p.names

/-- The bytes that a path must stay below. -/
def byteLimit : Nat := 4096

def isTooLong (p : Path) : Bool := byteLimit ≤ p.text.utf8ByteSize

/-- The path without its last name. -/
def parent (p : Path) : Path := { p with names := p.names.dropLast }

/-- The path and the paths above it, itself last, without the one that has no names. -/
def ancestry (p : Path) : List Path :=
  (List.range p.names.length).map fun n ↦ { p with names := p.names.take (n + 1) }

example : (ofText "./a//b/./../c/").text = "a/b/../c" := by decide +kernel
example : (ofText "").text = "." := by decide +kernel

end Path

end ObjectLookup
