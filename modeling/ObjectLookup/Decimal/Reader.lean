import ObjectLookup.Decimal.Binary64
import ObjectLookup.Text.Blank
import ObjectLookup.Text.Digit

/-! # Reading a decimal

A number is a sign, digits with at most one point among them, and an exponent; or `inf`, `infinity`
or `nan` in any case. A single underscore may stand between two digits, the digits may be those of
any script, and blanks around the number are ignored, the four information separators excepted.
-/

namespace ObjectLookup.Decimal

/-- The ASCII character that a character counts as: itself, a digit or a space. -/
def plain? (c : Char) : Option Char :=
  if c.toNat < 0x80 then some c
  else if Text.isBlank c then some ' '
  else (Text.digit? c).map fun d ↦ Char.ofNat ('0'.toNat + d)

/-- The ASCII characters around a number that are ignored. -/
def isSpace (c : Char) : Bool := c == ' ' || (9 ≤ c.toNat && c.toNat ≤ 13)

def strip (s : List Char) : List Char :=
  ((s.dropWhile isSpace).reverse.dropWhile isSpace).reverse

/-- Drops the underscores, each of which must have a digit on both sides. -/
def joinDigits? (previous : Char) : List Char → Option (List Char)
  | [] => if previous = '_' then none else some []
  | c :: s =>
    if c = '_' then if previous.isDigit then joinDigits? c s else none
    else if previous = '_' ∧ !c.isDigit then none
    else (joinDigits? c s).map (c :: ·)

/-- The value of a row of ASCII digits. -/
def natOf (ds : List Char) : Nat := ds.foldl (fun n d ↦ 10 * n + (d.toNat - '0'.toNat)) 0

/-- Takes off a sign; the result says whether it was a minus. -/
def sign : List Char → Bool × List Char
  | '-' :: s => (true, s)
  | '+' :: s => (false, s)
  | s => (false, s)

/-- An exponent, all of the text behind the digits. -/
def exponent? : List Char → Option Int
  | [] => some 0
  | c :: s =>
    if c = 'e' ∨ c = 'E' then
      let (negative, ds) := sign s
      if ds ≠ [] ∧ ds.all Char.isDigit then
        some (if negative then -(natOf ds : Int) else natOf ds)
      else none
    else none

/-- The digits behind a point, if there is a point, and what follows them. -/
def fractionPart : List Char → List Char × List Char
  | '.' :: s => (s.takeWhile Char.isDigit, s.dropWhile Char.isDigit)
  | s => ([], s)

/-- A number without its sign. -/
def unsigned? (negative : Bool) (s : List Char) : Option Binary64 :=
  let word := s.map Char.toLower
  if word = ['i', 'n', 'f'] ∨ word = ['i', 'n', 'f', 'i', 'n', 'i', 't', 'y'] then
    some (.infinite negative)
  else if word = ['n', 'a', 'n'] then some .nan
  else
    let whole := s.takeWhile Char.isDigit
    let (fraction, rest) := fractionPart (s.dropWhile Char.isDigit)
    if whole = [] ∧ fraction = [] then none
    else (exponent? rest).map fun e ↦
      .ofDecimal negative (natOf (whole ++ fraction)) (e - fraction.length)

/-- The number that a text spells out. -/
def read? (s : String) : Option Binary64 := do
  let plain ← s.toList.mapM plain?
  let joined ← joinDigits? ' ' (strip plain)
  let (negative, body) := sign joined
  unsigned? negative body

end ObjectLookup.Decimal
