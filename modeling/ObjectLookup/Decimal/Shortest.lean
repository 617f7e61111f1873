import ObjectLookup.Decimal.Binary64

/-! # The shortest decimal of a number

`shortest` finds the decimal of the fewest digits that reads back as the number, and of those the
nearest. The reals that read back form an interval around the number, which holds its ends just if
the significand is even. If any decimal of `n` digits lies in it, then one of the two neighbours of
the number on that grid does, so only these are tried.
-/

namespace ObjectLookup.Decimal

/-- A decimal `0.d₁d₂… * 10 ^ point`, its digits neither beginning nor ending in zero. -/
structure Digits where
  digits : List Char
  point : Int
deriving DecidableEq, Repr

/-- The positive reals that read back as `num / den`: from `low / den` to `high / den`. -/
structure Interval where
  num : Nat
  low : Nat
  high : Nat
  den : Nat
  closed : Bool
deriving DecidableEq, Repr

namespace Interval

/-- The interval around `m * 2 ^ e`. Below a power of two the next number is twice as near. -/
def around (m : Nat) (e : Int) : Interval :=
  let low := if m = Nat.pow 2 52 ∧ -1074 < e then 4 * m - 1 else 4 * m - 2
  let up := if e < 2 then 1 else Nat.pow 2 (e - 2).toNat
  let den := if e < 2 then Nat.pow 2 (2 - e).toNat else 1
  ⟨4 * m * up, low * up, (4 * m + 2) * up, den, m % 2 == 0⟩

/-- Whether `a / b` reads back. -/
def holds (i : Interval) (a b : Nat) : Bool :=
  if i.closed then i.low * b ≤ a * i.den && a * i.den ≤ i.high * b
  else i.low * b < a * i.den && a * i.den < i.high * b

end Interval

/-- The number of decimal digits, none for zero. -/
def digitCount (n : Nat) : Nat := if n = 0 then 0 else (Nat.toDigits 10 n).length

/-- The `k` with `10 ^ (k - 1) ≤ num / den < 10 ^ k`. -/
def decimalExponent (num den : Nat) : Int :=
  if den ≤ num then digitCount (num / den)
  else 1 - digitCount ((den + num - 1) / num - 1)

/-- A decimal `d * 10 ^ e` as its digits. -/
def Digits.of (d : Nat) (e : Int) : Digits :=
  let ds := Nat.toDigits 10 d
  ⟨(ds.reverse.dropWhile (· == '0')).reverse, ds.length + e⟩

/-- The nearest decimal of `n` digits that reads back, if there is one; the even one of two. -/
def shortestAt? (i : Interval) (k : Int) (n : Nat) : Option Digits :=
  let e := k - n
  let up := if e < 0 then Nat.pow 10 (-e).toNat else 1
  let down := if e < 0 then 1 else Nat.pow 10 e.toNat
  let num := i.num * up
  let den := i.den * down
  let d := num / den
  let r := 2 * (num % den)
  match i.holds (d * down) up, i.holds ((d + 1) * down) up with
  | true, true =>
    some (Digits.of (if r < den then d else if den < r then d + 1 else d + d % 2) e)
  | true, false => some (Digits.of d e)
  | false, true => some (Digits.of (d + 1) e)
  | false, false => none

/-- The first count of digits, out of `fuel` from `n`, for which a decimal reads back. -/
def shortestFrom (i : Interval) (k : Int) : (fuel n : Nat) → Option Digits
  | 0, _ => none
  | fuel + 1, n => (shortestAt? i k n).or (shortestFrom i k fuel (n + 1))

/-- The digits of `m * 2 ^ e` for a positive `m`; seventeen always suffice. -/
def shortest (m : Nat) (e : Int) : Digits :=
  let i := Interval.around m e
  (shortestFrom i (decimalExponent i.num i.den) 17 1).getD ⟨[], 0⟩

/-! ## Writing -/

/-- Positional notation: a point, and at least one digit on both sides of it. -/
def Digits.positional (d : Digits) : List Char :=
  let n := d.digits.length
  if d.point ≤ 0 then '0' :: '.' :: List.replicate (-d.point).toNat '0' ++ d.digits
  else if n ≤ d.point then d.digits ++ List.replicate (d.point - n).toNat '0' ++ ['.', '0']
  else d.digits.take d.point.toNat ++ '.' :: d.digits.drop d.point.toNat

/-- Scientific notation: one digit before the point, and a signed exponent of at least two
digits. -/
def Digits.scientific (d : Digits) : List Char :=
  let e := d.point - 1
  let exponent := Nat.toDigits 10 e.natAbs
  let padded := if exponent.length < 2 then '0' :: exponent else exponent
  let mantissa := match d.digits with
    | c :: r :: rs => c :: '.' :: r :: rs
    | ds => ds
  mantissa ++ 'e' :: (if e < 0 then '-' else '+') :: padded

/-- Numbers from `0.0001` to below `10 ^ 16` are written positionally. -/
def Digits.write (d : Digits) : List Char :=
  if -4 < d.point ∧ d.point ≤ 16 then d.positional else d.scientific

/-- The text of a number. -/
def Binary64.text : Binary64 → String
  | .nan => "nan"
  | .infinite negative => if negative then "-inf" else "inf"
  | .finite negative m e =>
    let body := if m = 0 then ['0', '.', '0'] else (shortest m e).write
    String.ofList (if negative then '-' :: body else body)

example : (Binary64.ofDecimal false 1 (-1)).text = "0.1" := by decide +kernel
example : (Binary64.ofDecimal true 0 0).text = "-0.0" := by decide +kernel
example : (Binary64.ofDecimal false 1 16).text = "1e+16" := by decide +kernel
example : (Binary64.ofDecimal false 5 (-324)).text = "5e-324" := by decide +kernel

end ObjectLookup.Decimal
