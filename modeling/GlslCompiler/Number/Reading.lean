import GlslCompiler.Number.Double

/-!
# Reading doubles

A decimal text is digits with at most one point among them and an optional power of ten. Its value is
rounded once, so a text with any number of digits reads as the double nearest to it.
-/

namespace GlslCompiler

namespace Double

/-- The number that decimal digits denote, most significant first. -/
def digitsValue (digits : List Char) : Nat :=
  digits.foldl (fun n c => 10 * n + (c.toNat - '0'.toNat)) 0

/-- Splits a sign off. -/
def splitSign : List Char → Bool × List Char
  | '-' :: rest => (true, rest)
  | '+' :: rest => (false, rest)
  | rest => (false, rest)

/-- The power of ten that stands behind the digits; nothing stands for zero. -/
def exponentPart? : List Char → Option Int
  | [] => some 0
  | mark :: rest =>
    let (negative, digits) := splitSign rest
    if (mark = 'e' ∨ mark = 'E') ∧ !digits.isEmpty ∧ digits.all Char.isDigit then
      some (if negative then -(digitsValue digits : Int) else digitsValue digits)
    else none

/-- The digits after a point, if there is a point, and what follows. -/
def fractionPart : List Char → List Char × List Char
  | '.' :: rest => rest.span Char.isDigit
  | rest => ([], rest)

/-- The double that an unsigned decimal text denotes. -/
def magnitude? (negative : Bool) (cs : List Char) : Option Double :=
  let (whole, rest) := cs.span Char.isDigit
  let (fraction, rest) := fractionPart rest
  if whole.isEmpty && fraction.isEmpty then none
  else (exponentPart? rest).map fun power =>
    ofDecimal negative (digitsValue (whole ++ fraction)) (power - fraction.length)

/-- The double that a text denotes; the names of the infinities and of the value that is no number are
`inf` and `nan`. -/
def ofText? (text : String) : Option Double :=
  let (negative, rest) := splitSign text.toList
  if rest = ['i', 'n', 'f'] then some (.infinite negative)
  else if rest = ['n', 'a', 'n'] then some .nan
  else magnitude? negative rest

end Double

end GlslCompiler
