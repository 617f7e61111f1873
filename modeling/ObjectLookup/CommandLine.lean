import ObjectLookup.Application
import ObjectLookup.CommandLine.Arguments
import ObjectLookup.CommandLine.ContextEntries
import ObjectLookup.CommandLine.Report
import ObjectLookup.FileTree
import ObjectLookup.Settings.Environment

/-! # The command line

Three commands over a resolver: `check` says where an identifier's object is if it can be read,
`format` says what format it has, and `fetch` copies its bytes to a file. A copy that fails leaves
no file behind.
-/

namespace ObjectLookup.CommandLine

variable {σ : Type}

/-- What a command works on. -/
structure Shell (σ : Type) where
  application : Application σ
  session : Session σ
  files : FileTree

/-- What a command needs from outside: modules to import, and a way to connect to a service. -/
structure Surroundings (σ : Type) where
  importer : Importer σ
  connect : S3.Options → Act σ (S3.Connection σ)

namespace Surroundings

/-- The host of the resolvers of an application. -/
def host (u : Surroundings σ) (settings : Settings) : Host σ :=
  ⟨u.importer, S3.factory u.connect settings⟩

end Surroundings

/-! ## Copying a stream to a file -/

/-- How many bytes are asked for in one read: one mebibyte. -/
def chunkSize : Nat := 1024 * 1024

/-- Appends to a file what a stream returns, until it returns nothing. As many reads are made at
most as the stream has left, and one more. -/
def copy (stream : Stream σ) (dest : Path) :
    (fuel : Nat) → Session σ → FileTree → Except Failure Unit × Session σ × FileTree
  | 0, s, files => (.ok (), s, files)
  | fuel + 1, s, files =>
    match s.perform (stream.read (some chunkSize)) with
    | (.error e, s) => (.error e, s, files)
    | (.ok [], s) => (.ok (), s, files)
    | (.ok (b :: bytes), s) => copy stream dest fuel s (files.append dest (b :: bytes))

/-- An operation on a stream that an object without a body does not have. -/
def noStream (operation : String) : Failure := ⟨.noMember "NoneType" operation, []⟩

/-- Makes the file, and the directories it goes into, and copies the stream to it. -/
def save (stream : Option (Stream σ)) (dest : Path) (s : Session σ) (files : FileTree) :
    Except Failure Unit × Session σ × FileTree :=
  match files.ensureDirectories dest.parent with
  | (.error (problem, p), files) => (.error (problem.failure p), s, files)
  | (.ok (), files) =>
    match files.create dest with
    | .error problem => (.error (problem.failure dest), s, files)
    | .ok files =>
      match stream with
      | none => (.error (noStream "read"), s, files)
      | some stream => copy stream dest (stream.remaining s.outside + 1) s files

/-- Saves the stream, or removes the file if that fails. A failure to remove it takes the place of
the first one. -/
def saveOrRemove (stream : Option (Stream σ)) (dest : Path) (s : Session σ) (files : FileTree) :
    Except Failure Unit × Session σ × FileTree :=
  match save stream dest s files with
  | (.ok (), s, files) => (.ok (), s, files)
  | (.error e, s, files) =>
    match files.unlink dest with
    | .ok files => (.error e, s, files)
    | .error problem => (.error (problem.failure dest), s, files)

/-- Closes the stream, whatever came before. A failure to close takes the place of an earlier
one. -/
def closeStream (stream : Option (Stream σ)) (result : Except Failure Unit) (s : Session σ) :
    Except Failure Unit × Session σ :=
  match stream with
  | none => (.error (noStream "close"), s)
  | some stream =>
    match s.perform stream.close with
    | (.ok (), s) => (result, s)
    | (.error e, s) => (.error e, s)

/-- Copies the content of a source to a file, and closes the stream and the source whatever comes of
it. The last failure is the one that counts. -/
def transfer (source : ContentSource σ) (dest : Path) (s : Session σ) (files : FileTree) :
    Except Failure Unit × Session σ × FileTree :=
  let step := source.newStream s
  let (result, s, files) := match step.result with
    | .error e => (.error e, step.session, files)
    | .ok stream =>
      let (result, s, files) := saveOrRemove stream dest step.session files
      let (result, s) := closeStream stream result s
      (result, s, files)
  let closing := step.self.close s
  match closing.result with
  | .ok () => (result, closing.session, files)
  | .error e => (.error e, closing.session, files)

/-! ## Commands -/

/-- The resolver that a call is about, its context being read first. -/
def resolverOf (importer : Importer σ) (identifier : String) (context : List String)
    (sh : Shell σ) : Except Failure (Resolver σ) × Shell σ :=
  match contextEntries context with
  | .error e => (.error e, sh)
  | .ok entries =>
    let (r, application, session) :=
      sh.application.resolverFor importer ⟨identifier⟩ (entries.mapValues .text) sh.session
    (.ok r, { sh with application, session })

/-- Says where the object is, if it can be read. -/
def check (host : Host σ) (r : Resolver σ) (sh : Shell σ) : Except Failure String × Shell σ :=
  let access := r.checkAccess host sh.session
  match access.result with
  | .error e => (.error e, { sh with session := access.session })
  | .ok () =>
    let step := access.self.location host access.session
    (step.result.map fun l ↦ printed ("OK " ++ l.text), { sh with session := step.session })

/-- Says what format the object has. -/
def format (host : Host σ) (r : Resolver σ) (sh : Shell σ) : Except Failure String × Shell σ :=
  let step := r.resolveFormat host sh.session
  (step.result.map fun f ↦ printed (f.name ++ " " ++ f.mediaType.text),
    { sh with session := step.session })

/-- Copies the object to a file. -/
def fetch (host : Host σ) (r : Resolver σ) (dest : Path) (sh : Shell σ) :
    Except Failure String × Shell σ :=
  let step := r.openStream host sh.session
  match step.result with
  | .error e => (.error e, { sh with session := step.session })
  | .ok source =>
    let (result, session, files) := transfer source dest step.session sh.files
    let size := files.size dest
    (result.map fun () ↦ printed ("Wrote " ++ toString size ++ " bytes to " ++ dest.text),
      { sh with session, files })

/-- Carries out a call over the storage of a host, and says what it printed. -/
def carryOut (host : Host σ) (call : Call) (sh : Shell σ) : Except Failure String × Shell σ :=
  match resolverOf host.importer (call.positional.headD "") call.context sh with
  | (.error e, sh) => (.error e, sh)
  | (.ok r, sh) =>
    match call.verb with
    | .check => check host r sh
    | .format => format host r sh
    | .fetch => fetch host r (.ofText (call.positional.getLastD "")) sh

/-- Carries out a call over the storage that the settings describe. -/
def perform (u : Surroundings σ) (call : Call) (sh : Shell σ) : Except Failure String × Shell σ :=
  carryOut (u.host sh.application.settings) call sh

/-- How a run of the program ended. -/
structure Ending (σ : Type) where
  exitCode : Nat
  output : String := ""
  errors : String := ""
  /-- Why nothing was done, if the arguments were no call. -/
  misuse : Option Misuse := none
  session : Session σ
  files : FileTree

/-- A run that ended before it did anything, for want of proper arguments. -/
def misused (misuse : Misuse) (outside : σ) (files : FileTree) : Ending σ where
  exitCode := match misuse with
    | .usage => 2
    | .help => 0
  misuse := some misuse
  session := { outside }
  files := files

/-- The log lines that are shown if they are asked for, without tracebacks. If they are not, none is
shown: what a process shows of its errors by itself when it has not set up a log is left out. -/
def shownLogs (verbose : Bool) (s : Session σ) : String :=
  if verbose then String.join (s.logs.map fun r ↦ r.line ++ "\n") else ""

/-- How a run ends once its call was carried out. -/
def conclude (verbose : Bool) : Except Failure String × Shell σ → Ending σ
  | (.ok output, sh) =>
    { exitCode := 0, output, errors := shownLogs verbose sh.session, session := sh.session,
      files := sh.files }
  | (.error e, sh) =>
    { exitCode := exitCode e.fault.name
      errors := shownLogs verbose sh.session ++ errorLine e
      session := sh.session, files := sh.files }

/-- Runs the program. Settings are loaded as soon as the command is known, and before its own
arguments are read. -/
def run (u : Surroundings σ) (env : Settings.Variables) (arguments : List String)
    (outside : σ) (files : FileTree) : Ending σ :=
  match readProgram arguments with
  | .error misuse => misused misuse outside files
  | .ok (verbose, verb, rest) =>
    match Settings.ofVariables env with
    | .error e =>
      { exitCode := exitCode e.fault.name, errors := errorLine e, session := { outside }, files }
    | .ok settings =>
      match readCall verb rest with
      | .error misuse => misused misuse outside files
      | .ok call => conclude verbose (perform u call ⟨{ settings }, { outside }, files⟩)

end ObjectLookup.CommandLine
