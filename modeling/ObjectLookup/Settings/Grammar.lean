import ObjectLookup.Text.Word

/-! # The form of endpoints and delegate targets

An endpoint is `http://` or `https://`, a host, a port if there is one, and a path if there is one.
A delegate target is a module and the path of one of its members with a colon between them. Either
may be followed by a single line break at the end of the text.
-/

namespace ObjectLookup.Settings

/-- The end of the text, or a line break at the end of the text. -/
def atEnd : List Char → Bool
  | [] => true
  | ['\n'] => true
  | _ => false

/-! ## Endpoints -/

def isHostChar (c : Char) : Bool := c.isAlphanum || c == '.' || c == '-'

/-- The text behind a scheme and `://`. -/
def afterScheme? : List Char → Option (List Char)
  | 'h' :: 't' :: 't' :: 'p' :: 's' :: ':' :: '/' :: '/' :: s => some s
  | 'h' :: 't' :: 't' :: 'p' :: ':' :: '/' :: '/' :: s => some s
  | _ => none

/-- A path, which runs to the end of its line. -/
def endpointPath : List Char → Bool
  | '/' :: s => atEnd (s.dropWhile (· ≠ '\n'))
  | s => atEnd s

/-- A port, and then a path. -/
def endpointPort : List Char → Bool
  | ':' :: s => s.takeWhile Char.isDigit ≠ [] && endpointPath (s.dropWhile Char.isDigit)
  | s => endpointPath s

def isEndpoint (s : List Char) : Bool :=
  match afterScheme? s with
  | some r => r.takeWhile isHostChar ≠ [] && endpointPort (r.dropWhile isHostChar)
  | none => false

/-! ## Delegate targets -/

def isPathChar (c : Char) : Bool := Text.isWord c || c == '.'

/-- Takes off a name with dots in it, which begins with an ASCII letter or an underscore. -/
def afterPath? : List Char → Option (List Char)
  | c :: s => if Text.isWordStart c then some (s.dropWhile isPathChar) else none
  | [] => none

def isTarget (s : List Char) : Bool :=
  match afterPath? s with
  | some (':' :: r) => (afterPath? r).any atEnd
  | _ => false

example : isEndpoint "http://localhost:9000/x y".toList = true := by decide +kernel
example : isEndpoint "http://localhost:".toList = false := by decide +kernel
example : isTarget "package.module:function".toList = true := by decide +kernel
example : isTarget "module:a:b".toList = false := by decide +kernel

end ObjectLookup.Settings
