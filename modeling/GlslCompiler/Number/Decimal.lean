import GlslCompiler.Number.Double

/-!
# The shortest decimal of a double

The text of a finite double has the fewest digits that still read back as the same double, and of those
with that many digits the nearest one. `Decimal.shortest` finds the digits by walking through decimal
grids of one, two, up to seventeen digits and testing the two grid points around the value;
`DecimalFormat` says how a digit string is laid out.
-/

namespace GlslCompiler

/-- The decimal number `digits · 10 ^ power`. -/
structure Decimal where
  digits : Nat
  power : Int
  deriving DecidableEq

namespace Decimal

/-- The reals between `low / den` and `high / den`, the ends included when `closed`. -/
structure Interval where
  low : Nat
  high : Nat
  den : Nat
  closed : Bool

/-- Numerator and denominator of `digits · 10 ^ power`. -/
def quotient (digits : Nat) (power : Int) : Nat × Nat :=
  if 0 ≤ power then (digits * Nat.pow 10 power.toNat, 1) else (digits, Nat.pow 10 (-power).toNat)

/-- Whether the interval holds the decimal. -/
def Interval.holds (interval : Interval) (d : Decimal) : Bool :=
  let (num, den) := quotient d.digits d.power
  let low := interval.low * den
  let high := interval.high * den
  let point := num * interval.den
  if interval.closed then low ≤ point && point ≤ high else low < point && point < high

/-- The reals that round to the double `significand · 2 ^ exponent`, in quarters of its unit: half a
unit to each side, a quarter below a power of two. -/
def roundingInterval (significand : Nat) (exponent : Int) : Interval :=
  let unit := exponent - 2
  let gap := if significand = Nat.pow 2 52 ∧ Double.minExponent < exponent then 1 else 2
  let scale := if 0 ≤ unit then Nat.pow 2 unit.toNat else 1
  { low := (4 * significand - gap) * scale
    high := (4 * significand + 2) * scale
    den := if 0 ≤ unit then 1 else Nat.pow 2 (-unit).toNat
    closed := significand % 2 == 0 }

/-- The greatest `k` with `10 ^ k ≤ num / den`, for a positive quotient. -/
def decimalMagnitude (num den : Nat) : Int :=
  let guess := Int.fdiv (binaryMagnitude num den * 30103) 100000
  let reaches (k : Int) : Bool :=
    let (n, d) := quotient 1 k
    n * den ≤ num * d
  if reaches (guess + 1) then guess + 1 else if reaches guess then guess else guess - 1

/-- The better of the two points around `num / den` on the grid of step `10 ^ power`, among those the
interval holds: the nearer one, and of two equally near the even one. -/
def nearestOnGrid? (interval : Interval) (num den : Nat) (power : Int) : Option Decimal :=
  let (stepNum, stepDen) := quotient 1 power
  let n := num * stepDen
  let d := den * stepNum
  let below : Decimal := ⟨n / d, power⟩
  let above : Decimal := ⟨n / d + 1, power⟩
  match interval.holds below, interval.holds above with
  | true, true => some ⟨roundQuotient n d, power⟩
  | true, false => some below
  | false, true => some above
  | false, false => none

/-- The shortest decimal that rounds to the positive double `significand · 2 ^ exponent`. Seventeen
digits always suffice. -/
def shortest (significand : Nat) (exponent : Int) : Decimal :=
  let (num, den) :=
    if 0 ≤ exponent then (significand * Nat.pow 2 exponent.toNat, 1)
    else (significand, Nat.pow 2 (-exponent).toNat)
  let interval := roundingInterval significand exponent
  let magnitude := decimalMagnitude num den
  ((List.range 17).findSome? fun (count : Nat) =>
    nearestOnGrid? interval num den (magnitude - count)).getD ⟨0, 0⟩

end Decimal

/-- How a decimal number is written. -/
structure DecimalFormat where
  /-- Decimal exponents from here on down to `positionalFrom` are written without an exponent. -/
  positionalBelow : Int
  positionalFrom : Int
  /-- The least number of digits of an exponent. -/
  exponentWidth : Nat
  infinity : String
  notANumber : String

namespace DecimalFormat

/-- Numbers are positional from `1e-4` up to but not including `1e16`. -/
def standard : DecimalFormat :=
  { positionalBelow := 16
    positionalFrom := -4
    exponentWidth := 2
    infinity := "inf"
    notANumber := "nan" }

def zeros (count : Nat) : String := String.ofList (List.replicate count '0')

/-- Digits without the zeros at their end. -/
def stripZeros (digits : List Char) : List Char :=
  (digits.reverse.dropWhile (· == '0')).reverse

/-- The exponent part: a mark, a sign, and at least `exponentWidth` digits. -/
def exponentText (format : DecimalFormat) (exponent : Int) : String :=
  let digits := toString exponent.natAbs
  (if exponent < 0 then "e-" else "e+") ++ zeros (format.exponentWidth - digits.length) ++ digits

/-- A positive decimal, written from its significant digits. -/
def positive (format : DecimalFormat) (d : Decimal) : String :=
  let all := Nat.toDigits 10 d.digits
  let digits := stripZeros all
  let exponent : Int := (all.length : Int) + d.power - 1
  if format.positionalFrom ≤ exponent ∧ exponent < format.positionalBelow then
    if exponent < 0 then
      "0." ++ zeros (-exponent - 1).toNat ++ String.ofList digits
    else
      let whole := exponent.toNat + 1
      if digits.length ≤ whole then
        String.ofList digits ++ zeros (whole - digits.length) ++ ".0"
      else
        String.ofList (digits.take whole) ++ "." ++ String.ofList (digits.drop whole)
  else
    let fraction := digits.drop 1
    String.ofList (digits.take 1)
      ++ (if fraction.isEmpty then "" else "." ++ String.ofList fraction)
      ++ format.exponentText exponent

/-- The text of a double. -/
def text (format : DecimalFormat) : Double → String
  | .nan => format.notANumber
  | .infinite negative => (if negative then "-" else "") ++ format.infinity
  | .finite negative significand exponent =>
    (if negative then "-" else "")
      ++ (if significand = 0 then "0.0" else format.positive (Decimal.shortest significand exponent))

end DecimalFormat

end GlslCompiler
