/-!
# Binary64 numbers

The floating-point numbers of a document, kept as exact values: `±m · 2 ^ e`
with `m < 2 ^ 53`. A decimal is read as the nearest such number, a half going
to the even neighbour. All of it is exact arithmetic on rationals, so a number
that is printed and read back can be compared with what it was.
-/

namespace SecurityRules

/-- A binary64 number. A finite one is `±mantissa · 2 ^ exponent`. -/
inductive Binary64 where
  | nan
  | infinity (negative : Bool)
  | finite (negative : Bool) (mantissa : Nat) (exponent : Int)
  deriving DecidableEq, Repr

/-- A quotient rounded to the nearest natural number, a half to the even one. -/
def roundHalfEven (num den : Nat) : Nat :=
  let quotient := num / den
  let twice := 2 * (num % den)
  if twice < den then quotient
  else if den < twice then quotient + 1
  else quotient + quotient % 2

/-- The value `digits · 10 ^ exponent`. -/
def decimalValue (digits : Nat) (exponent : Int) : Rat :=
  if 0 ≤ exponent then mkRat (digits * Nat.pow 10 exponent.toNat) 1
  else mkRat digits (Nat.pow 10 (-exponent).toNat)

namespace Binary64

/-- The least exponent of a finite number. -/
def minExponent : Int := -1074

/-- The greatest exponent of a finite number. -/
def maxExponent : Int := 971

/-- The value `mantissa · 2 ^ exponent`. -/
def magnitude (mantissa : Nat) (exponent : Int) : Rat :=
  if 0 ≤ exponent then mkRat (mantissa <<< exponent.toNat) 1
  else mkRat mantissa (1 <<< (-exponent).toNat)

/-- A non-negative rational divided by a power of two, as a pair of naturals. -/
def overPower (r : Rat) (exponent : Int) : Nat × Nat :=
  if 0 ≤ exponent then (r.num.natAbs, r.den <<< exponent.toNat)
  else (r.num.natAbs <<< (-exponent).toNat, r.den)

/-- The exponent at which a positive rational has a mantissa of 53 bits, or the
least exponent if that is greater. -/
def exponentOf (r : Rat) : Int :=
  let estimate := max minExponent ((r.num.natAbs.log2 : Int) - r.den.log2 - 53)
  let (num, den) := overPower r estimate
  if num / den < 1 <<< 53 then estimate else estimate + 1

/-- The number nearest to a non-negative rational, with a given sign. -/
def nearest (negative : Bool) (r : Rat) : Binary64 :=
  if r.num.natAbs = 0 then .finite negative 0 minExponent
  else
    let exponent := exponentOf r
    let (num, den) := overPower r exponent
    let mantissa := roundHalfEven num den
    let (mantissa, exponent) :=
      if mantissa = 1 <<< 53 then (1 <<< 52, exponent + 1) else (mantissa, exponent)
    if maxExponent < exponent then .infinity negative
    else .finite negative mantissa exponent

/-- The number nearest to `±digits · 10 ^ exponent`. Decimals far outside the
range of binary64 are settled by their size alone. -/
def ofDecimal (negative : Bool) (digits : Nat) (exponent : Int) : Binary64 :=
  let size := (Nat.toDigits 10 digits).length + exponent
  if digits = 0 ∨ size < -330 then .finite negative 0 minExponent
  else if 310 < size then .infinity negative
  else nearest negative (decimalValue digits exponent)

/-- The integer that a number is equal to, if there is one. -/
def toInt? : Binary64 → Option Int
  | .finite negative mantissa exponent =>
      let r := magnitude mantissa exponent
      if r.den = 1 then some (if negative then -r.num else r.num) else none
  | _ => none

def isZero : Binary64 → Bool
  | .finite _ mantissa _ => mantissa == 0
  | _ => false

end Binary64

end SecurityRules
