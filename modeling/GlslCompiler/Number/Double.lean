/-!
# Double-precision values, exactly

A finite double is kept as the dyadic number it denotes, a sign, a significand and a power of two, so
every question about it is a question about integers. Rounding is to the nearest representable value
with ties to the even significand, and is done once, on a quotient of naturals: integers and decimal
texts both go through `ofQuotient`.
-/

namespace GlslCompiler

/-- A double: not a number, an infinity, or the exact value `±significand · 2 ^ exponent`. -/
inductive Double where
  | nan
  | infinite (negative : Bool)
  | finite (negative : Bool) (significand : Nat) (exponent : Int)
  deriving DecidableEq

/-- The quotient rounded to the nearest natural, a half going to the even neighbour. -/
def roundQuotient (num den : Nat) : Nat :=
  let below := num / den
  let rest := num % den
  if 2 * rest < den then below
  else if den < 2 * rest then below + 1
  else below + below % 2

/-- The quotient `num / den` divided by `2 ^ exponent`, again as a quotient. -/
def scaleQuotient (num den : Nat) (exponent : Int) : Nat × Nat :=
  if 0 ≤ exponent then (num, den * Nat.pow 2 exponent.toNat) else (num * Nat.pow 2 (-exponent).toNat, den)

/-- The greatest `e` with `2 ^ e ≤ num / den`, for a positive quotient. -/
def binaryMagnitude (num den : Nat) : Int :=
  let guess : Int := (num.log2 : Int) - (den.log2 : Int)
  let (n, d) := scaleQuotient num den guess
  if n < d then guess - 1 else guess

namespace Double

/-- The exponent of the smallest positive double. -/
def minExponent : Int := -1074

/-- The greatest exponent of a finite double with a full significand. -/
def maxExponent : Int := 971

/-- Zero with the given sign. -/
def zero (negative : Bool) : Double := .finite negative 0 minExponent

/-- The double nearest to `±num / den`; a magnitude that rounds to `2 ^ 1024` or more is infinite. -/
def ofQuotient (negative : Bool) (num den : Nat) : Double :=
  if num = 0 ∨ den = 0 then zero negative
  else
    let exponent := max (binaryMagnitude num den - 52) minExponent
    let (n, d) := scaleQuotient num den exponent
    let significand := roundQuotient n d
    let (significand, exponent) :=
      if significand = Nat.pow 2 53 then (Nat.pow 2 52, exponent + 1) else (significand, exponent)
    if maxExponent < exponent then .infinite negative else .finite negative significand exponent

/-- The double nearest to an integer. -/
def ofInt (n : Int) : Double := ofQuotient (n < 0) n.natAbs 1

/-- The double nearest to `±digits · 10 ^ power`. Powers far outside the range of doubles are settled
by magnitude alone. -/
def ofDecimal (negative : Bool) (digits : Nat) (power : Int) : Double :=
  if digits = 0 then zero negative
  else
    let magnitude : Int := (Nat.toDigits 10 digits).length + power
    if 310 < magnitude then .infinite negative
    else if magnitude < -330 then zero negative
    else if 0 ≤ power then ofQuotient negative (digits * Nat.pow 10 power.toNat) 1
    else ofQuotient negative digits (Nat.pow 10 (-power).toNat)

/-- The integer left of a finite value after dropping its fraction. -/
def truncate (negative : Bool) (significand : Nat) (exponent : Int) : Int :=
  let magnitude : Nat :=
    if 0 ≤ exponent then significand * Nat.pow 2 exponent.toNat else significand / Nat.pow 2 (-exponent).toNat
  if negative then -(magnitude : Int) else magnitude

/-- Whether the value is a zero of either sign. -/
def isZero : Double → Bool
  | .finite _ significand _ => significand == 0
  | _ => false

end Double

end GlslCompiler
