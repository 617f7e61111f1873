/-! # Arguments of the command line

The arguments begin with options for the whole program, then comes a command with arguments of its
own, where options and other arguments may stand in any order. A double dash ends the options. An
option's value follows it as the next argument, behind an equals sign, or directly behind its
letter.
-/

namespace ObjectLookup.CommandLine

/-- What arguments can be other than a call of the program. -/
inductive Misuse where
  /-- They are not of the right form. -/
  | usage
  /-- They ask for the help text. -/
  | help
deriving DecidableEq, Repr

/-- How the program is called. -/
def usage : String :=
  "Usage: object-lookup [-v | --verbose] COMMAND\n\n" ++
  "  check IDENTIFIER        say where the object is, if it can be read\n" ++
  "  format IDENTIFIER       say what format the object has\n" ++
  "  fetch IDENTIFIER DEST   copy the object to a file\n\n" ++
  "Every command takes -c KEY=VALUE or --context KEY=VALUE, any number of times.\n"

inductive Verb where
  | check | format | fetch
deriving DecidableEq, Repr

namespace Verb

def ofName? (s : String) : Option Verb :=
  if s = "check" then some .check
  else if s = "format" then some .format
  else if s = "fetch" then some .fetch
  else none

/-- How many arguments the command takes besides its options. -/
def arity : Verb → Nat
  | .check | .format => 1
  | .fetch => 2

end Verb

/-- An argument by its form. -/
inductive Shape where
  | separator
  /-- A name behind two dashes, with the value behind an equals sign. -/
  | long (name : List Char) (value : Option (List Char))
  /-- Letters behind one dash. -/
  | short (letters : List Char)
  | plain
deriving DecidableEq, Repr

/-- The name and the value of a long option, cut at the first equals sign. -/
def splitLong (s : List Char) : Shape :=
  match s.dropWhile (· ≠ '=') with
  | [] => .long s none
  | _ :: value => .long (s.takeWhile (· ≠ '=')) (some value)

/-- A single dash is an argument like any other. -/
def shape (s : String) : Shape :=
  match s.toList with
  | '-' :: '-' :: [] => .separator
  | '-' :: '-' :: name => splitLong name
  | '-' :: c :: letters => .short (c :: letters)
  | _ => .plain

/-! ## Options of the program -/

structure Globals where
  verbose : Bool := false
  help : Bool := false
deriving DecidableEq, Repr

/-- Takes the options in front of the command. -/
def takeGlobals (g : Globals) : List String → Except Misuse (Globals × List String)
  | [] => .ok (g, [])
  | a :: rest =>
    match shape a with
    | .separator => .ok (g, rest)
    | .plain => .ok (g, a :: rest)
    | .long name value =>
      if value ≠ none then .error .usage
      else if name = "verbose".toList then takeGlobals { g with verbose := true } rest
      else if name = "help".toList then takeGlobals { g with help := true } rest
      else .error .usage
    | .short letters =>
      if letters.all (· = 'v') then takeGlobals { g with verbose := true } rest else .error .usage

/-! ## Arguments of a command -/

structure Locals where
  positional : List String := []
  context : List String := []
  help : Bool := false
deriving DecidableEq, Repr

namespace Locals

def addPositional (s : String) (l : Locals) : Locals :=
  { l with positional := l.positional ++ [s] }

def addContext (s : String) (l : Locals) : Locals := { l with context := l.context ++ [s] }

end Locals

/-- Takes the options and arguments of a command. -/
def takeLocals (l : Locals) : List String → Except Misuse Locals
  | [] => .ok l
  | a :: rest =>
    match shape a with
    | .separator => .ok { l with positional := l.positional ++ rest }
    | .plain => takeLocals (l.addPositional a) rest
    | .long name (some value) =>
      if name = "context".toList then takeLocals (l.addContext (String.ofList value)) rest
      else .error .usage
    | .short ('c' :: v :: value) => takeLocals (l.addContext (String.ofList (v :: value))) rest
    | .long name none =>
      if name = "help".toList then takeLocals { l with help := true } rest
      else if name = "context".toList then
        match rest with
        | value :: rest => takeLocals (l.addContext value) rest
        | [] => .error .usage
      else .error .usage
    | .short ['c'] =>
      match rest with
      | value :: rest => takeLocals (l.addContext value) rest
      | [] => .error .usage
    | .short _ => .error .usage

/-- A command with its arguments. -/
structure Call where
  verb : Verb
  positional : List String
  context : List String
deriving DecidableEq, Repr

/-- The options of the program, the command, and what is left for the command to read. -/
def readProgram (arguments : List String) : Except Misuse (Bool × Verb × List String) := do
  let (globals, rest) ← takeGlobals {} arguments
  if globals.help then throw .help
  match rest with
  | [] => throw .usage
  | name :: rest =>
    match Verb.ofName? name with
    | some verb => return (globals.verbose, verb, rest)
    | none => throw .usage

/-- The arguments of a command. -/
def readCall (verb : Verb) (arguments : List String) : Except Misuse Call := do
  let locals ← takeLocals {} arguments
  if locals.help then throw .help
  if locals.positional.length = verb.arity then
    return ⟨verb, locals.positional, locals.context⟩
  else throw .usage

example : (readCall .check ["-ctenant=a", "cats.jpg", "--context", "-x"]).toOption =
    some ⟨.check, ["cats.jpg"], ["tenant=a", "-x"]⟩ := by decide +kernel
example : (readCall .check ["--", "-dash.gif"]).toOption = some ⟨.check, ["-dash.gif"], []⟩ := by
  decide +kernel

end ObjectLookup.CommandLine
