import ObjectLookup.Failure
import ObjectLookup.FileTree.Path

/-! # Files and directories

A file tree lists what there is by the names on the way from its root. Paths lead from a current
directory, or from the root if they begin with a slash; every name but the last must be that of a
directory.
-/

namespace ObjectLookup

inductive Node where
  | directory
  /-- A file, with the chunks that were written to it, newest first. -/
  | file (chunks : List (List UInt8))
deriving DecidableEq, Repr

/-- The content of a file. -/
def Node.content? : Node → Option (List UInt8)
  | .directory => none
  | .file chunks => some chunks.reverse.flatten

/-- What can go wrong with a path. -/
inductive PathProblem where
  | missing | present | notDirectory | isDirectory | nameTooLong
deriving DecidableEq, Repr

namespace PathProblem

def number : PathProblem → Nat
  | .missing => 2
  | .present => 17
  | .notDirectory => 20
  | .isDirectory => 21
  | .nameTooLong => 36

def description : PathProblem → String
  | .missing => "No such file or directory"
  | .present => "File exists"
  | .notDirectory => "Not a directory"
  | .isDirectory => "Is a directory"
  | .nameTooLong => "File name too long"

def className : PathProblem → String
  | .missing => "FileNotFoundError"
  | .present => "FileExistsError"
  | .notDirectory => "NotADirectoryError"
  | .isDirectory => "IsADirectoryError"
  | .nameTooLong => "OSError"

/-- The failure of an operation on a path. -/
def failure (problem : PathProblem) (path : Path) : Failure :=
  ⟨.other problem.className
    ("[Errno " ++ toString problem.number ++ "] " ++ problem.description ++ ": " ++
      Text.quoted path.text), []⟩

end PathProblem

structure FileTree where
  /-- The names that lead to the current directory. -/
  current : List String
  nodes : List (List String × Node)
deriving Repr

namespace FileTree

/-- What is at a place. The root is always a directory. -/
def node? (t : FileTree) (place : List String) : Option Node :=
  if place = [] then some .directory else t.nodes.lookup place

/-- Puts a node at a place, in place of the one that is there. -/
def set (place : List String) (node : Node) (t : FileTree) : FileTree :=
  if t.nodes.any (·.1 = place) then
    { t with nodes := t.nodes.map fun n ↦ if n.1 = place then (place, node) else n }
  else { t with nodes := t.nodes ++ [(place, node)] }

def remove (place : List String) (t : FileTree) : FileTree :=
  { t with nodes := t.nodes.filter (·.1 ≠ place) }

/-- The most bytes that a name may have. -/
def nameLimit : Nat := 255

/-- Follows names from a place; whatever is passed through must be a directory. -/
def walk (t : FileTree) (place : List String) : List String → Except PathProblem (List String)
  | [] => .ok place
  | name :: names =>
    match t.node? place with
    | none => .error .missing
    | some (.file _) => .error .notDirectory
    | some .directory =>
      if name.utf8ByteSize > nameLimit then .error .nameTooLong
      else walk t (if name = Path.up then place.dropLast else place ++ [name]) names

/-- The place that a path leads to, whether or not there is anything. -/
def locate (t : FileTree) (p : Path) : Except PathProblem (List String) :=
  if p.isTooLong then .error .nameTooLong
  else t.walk (if p.slashes = 0 then t.current else []) p.names

/-- What a path leads to. -/
def at? (t : FileTree) (p : Path) : Option Node :=
  match t.locate p with
  | .ok place => t.node? place
  | .error _ => none

/-- Makes one directory. -/
def makeDirectory (p : Path) (t : FileTree) : Except PathProblem FileTree := do
  let place ← t.locate p
  match t.node? place with
  | some _ => throw .present
  | none => return t.set place .directory

/-- Makes a directory where there is none. -/
def ensureDirectory (p : Path) (t : FileTree) : Except PathProblem FileTree :=
  match t.makeDirectory p with
  | .error problem => if t.at? p = some .directory then .ok t else .error problem
  | .ok t => .ok t

/-- Makes the directories on a path that are missing, one after the other, and names the path at
which that failed. Those that were made before stay. -/
def ensureAll : List Path → FileTree → Except (PathProblem × Path) Unit × FileTree
  | [], t => (.ok (), t)
  | p :: ps, t =>
    match t.ensureDirectory p with
    | .ok t => ensureAll ps t
    | .error problem => (.error (problem, p), t)

/-- Makes a directory and those above it. None is made on a path that is too long as a whole. -/
def ensureDirectories (p : Path) (t : FileTree) : Except (PathProblem × Path) Unit × FileTree :=
  if p.isTooLong then (.error (.nameTooLong, p), t) else ensureAll p.ancestry t

/-- Makes a file, or empties the one that is there. -/
def create (p : Path) (t : FileTree) : Except PathProblem FileTree := do
  let place ← t.locate p
  match t.node? place with
  | some .directory => throw .isDirectory
  | _ => return t.set place (.file [])

/-- Writes behind the end of a file. -/
def append (p : Path) (bytes : List UInt8) (t : FileTree) : FileTree :=
  match t.locate p, t.at? p with
  | .ok place, some (.file chunks) => t.set place (.file (bytes :: chunks))
  | _, _ => t

/-- Removes a file, if there is one. -/
def unlink (p : Path) (t : FileTree) : Except PathProblem FileTree :=
  match t.locate p with
  | .error .missing => .ok t
  | .error problem => .error problem
  | .ok place =>
    match t.node? place with
    | some .directory => .error .isDirectory
    | some (.file _) => .ok (t.remove place)
    | none => .ok t

/-- The size of a file. -/
def size (p : Path) (t : FileTree) : Nat :=
  (((t.at? p).bind Node.content?).getD []).length

end FileTree

end ObjectLookup
