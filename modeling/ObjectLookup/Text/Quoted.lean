import ObjectLookup.Text.Printable

/-! # Quoted text

The written form of a text in a message: in single quotes, or in double quotes if it holds a single
quote and no double one. The quote in use and the backslash are escaped, and so is every character
that is not printable, by its code in two, four or eight hexadecimal digits. Byte strings follow
the same rule, with every byte outside of ASCII escaped, behind the letter `b`.
-/

namespace ObjectLookup.Text

/-- The last `width` hexadecimal digits of `n`. -/
def hex : (width n : Nat) → List Char
  | 0, _ => []
  | width + 1, n => hex width (n / 16) ++ [Nat.digitChar (n % 16)]

/-- The quote that is written around a text. -/
def quoteFor (s : List Char) : Char :=
  if '\'' ∈ s ∧ '"' ∉ s then '"' else '\''

/-- The escapes that do not depend on whether a character is printable. -/
def escape? (quote c : Char) : Option (List Char) :=
  if c = quote ∨ c = '\\' then some ['\\', c]
  else if c = '\n' then some ['\\', 'n']
  else if c = '\r' then some ['\\', 'r']
  else if c = '\t' then some ['\\', 't']
  else none

/-- A character by its code, in the fewest of two, four or eight digits that hold it. -/
def escapeCode (c : Char) : List Char :=
  if c.toNat < 0x100 then '\\' :: 'x' :: hex 2 c.toNat
  else if c.toNat < 0x10000 then '\\' :: 'u' :: hex 4 c.toNat
  else '\\' :: 'U' :: hex 8 c.toNat

def quoteChar (quote c : Char) : List Char :=
  match escape? quote c with
  | some e => e
  | none => if isPrintable c then [c] else escapeCode c

def quotedChars (s : List Char) : List Char :=
  let quote := quoteFor s
  quote :: s.flatMap (quoteChar quote) ++ [quote]

/-- The written form of a text. -/
def quoted (s : String) : String := String.ofList (quotedChars s.toList)

def quoteByte (quote : Char) (b : UInt8) : List Char :=
  let c := Char.ofUInt8 b
  match escape? quote c with
  | some e => e
  | none => if 0x20 ≤ b ∧ b < 0x7F then [c] else escapeCode c

/-- The written form of a byte string. -/
def quotedBytes (bs : List UInt8) : String :=
  let quote := quoteFor (bs.map Char.ofUInt8)
  String.ofList ('b' :: quote :: bs.flatMap (quoteByte quote) ++ [quote])

/-- The written form of a text that may be missing. -/
def quoted? : Option String → String
  | some s => quoted s
  | none => "None"

@[simp] theorem quoted?_none : quoted? none = "None" := rfl
@[simp] theorem quoted?_some (s : String) : quoted? (some s) = quoted s := rfl

end ObjectLookup.Text
