/-! # Binary floating point numbers of 64 bits

A finite number is a sign, a significand below `2 ^ 53` and a power of two from `2 ^ -1074` up; the
significand is at least `2 ^ 52` unless the power is the smallest. `nearest` yields numbers of that
form only.
-/

namespace ObjectLookup.Decimal

inductive Binary64 where
  | nan
  | infinite (negative : Bool)
  | finite (negative : Bool) (significand : Nat) (exponent : Int)
deriving DecidableEq, Repr

namespace Binary64

def zero (negative : Bool) : Binary64 := .finite negative 0 (-1074)

/-- The comparison `x ≤ 0`, which holds of no NaN. -/
def isNonpositive : Binary64 → Bool
  | .nan => false
  | .infinite negative => negative
  | .finite negative m _ => negative || m == 0

/-- The comparison `0 < x`, which holds of no NaN. -/
def isPositive : Binary64 → Bool
  | .nan => false
  | .infinite negative => !negative
  | .finite negative m _ => !negative && m != 0

/-- A finite number as a fraction, its denominator a power of two. -/
def fraction? : Binary64 → Option (Int × Nat)
  | .finite negative m e =>
    let n : Int := if negative then -m else m
    some (if e < 0 then (n, Nat.pow 2 (-e).toNat) else (n * Nat.pow 2 e.toNat, 1))
  | _ => none

/-- Equality of the values: both zeros are one, and a NaN equals nothing. -/
def equals (x y : Binary64) : Bool :=
  match x, y with
  | .infinite s, .infinite t => s == t
  | _, _ =>
    match x.fraction?, y.fraction? with
    | some (a, b), some (c, d) => a * d == c * b
    | _, _ => false

/-- Whether the number is exactly the integer `n`. -/
def equalsInt (x : Binary64) (n : Int) : Bool :=
  match x.fraction? with
  | some (a, b) => a == n * b
  | none => false

@[simp] theorem isNonpositive_nan : isNonpositive .nan = false := rfl
@[simp] theorem isPositive_nan : isPositive .nan = false := rfl

/-- The two comparisons leave only NaN out. -/
theorem isPositive_or_isNonpositive {x : Binary64} (h : x ≠ .nan) :
    x.isPositive = !x.isNonpositive := by
  cases x <;> simp_all [isPositive, isNonpositive, bne]

/-! ## Rounding a fraction -/

/-- `num / den` rounded to an integer, a half to the even one. -/
def roundEven (num den : Nat) : Nat :=
  let q := num / den
  let r := 2 * (num % den)
  if r < den then q else if den < r then q + 1 else q + q % 2

/-- The significand of `num / den` at the power `2 ^ e`. -/
def significandAt (num den : Nat) (e : Int) : Nat :=
  if e < 0 then roundEven (num * Nat.pow 2 (-e).toNat) den
  else roundEven num (den * Nat.pow 2 e.toNat)

/-- Whether `num / den` is at least `2 ^ (e + 52)`. -/
def reaches (num den : Nat) (e : Int) : Bool :=
  if e < 0 then den * Nat.pow 2 52 ≤ num * Nat.pow 2 (-e).toNat
  else den * Nat.pow 2 e.toNat * Nat.pow 2 52 ≤ num

/-- The exponent that gives `num / den` a significand of 53 bits, or the smallest exponent. -/
def exponentOf (num den : Nat) : Int :=
  let e : Int := (num.log2 : Int) - den.log2 - 52
  max (if reaches num den e then e else e - 1) (-1074)

/-- The number nearest to `num / den`, of two equally near ones the even one. Beyond the largest
number this is infinity. -/
def nearest (negative : Bool) (num den : Nat) : Binary64 :=
  if num = 0 then zero negative
  else
    let e := exponentOf num den
    let m := significandAt num den e
    let (m, e) := if m = Nat.pow 2 53 then (Nat.pow 2 52, e + 1) else (m, e)
    if 971 < e then .infinite negative else .finite negative m e

/-- The number nearest to `digits * 10 ^ exponent`. Exponents that leave the range whatever the
digits are decided without raising the power. -/
def ofDecimal (negative : Bool) (digits : Nat) (exponent : Int) : Binary64 :=
  let size : Int := (Nat.toDigits 10 digits).length + exponent
  if digits = 0 then zero negative
  else if 310 < size then .infinite negative
  else if size < -330 then zero negative
  else if exponent < 0 then nearest negative digits (Nat.pow 10 (-exponent).toNat)
  else nearest negative (digits * Nat.pow 10 exponent.toNat) 1

example : ofDecimal false 10 0 = .finite false (5 * 2 ^ 50) (-49) := by decide +kernel
example : ofDecimal false 49 (-325) = .finite false 1 (-1074) := by decide +kernel
example : ofDecimal true 1 309 = .infinite true := by decide +kernel

end Binary64

end ObjectLookup.Decimal
