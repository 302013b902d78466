import GlslCompiler.Number.Decimal
import GlslCompiler.Program.Expr
import GlslCompiler.Tier

/-!
# Literals

A literal is written according to its value and its type. A spelling taken from the source is kept,
except that the ES family has no suffix on floating constants. A value that its type cannot show, such
as an infinite integer, is the only way in which writing a program can fail.
-/

namespace GlslCompiler

/-- Why a literal has no text. -/
inductive LiteralError where
  /-- The integer rounds to a magnitude of `2 ^ 1024` or more. -/
  | floatOverflow
  | infinityToInteger
  | nanToInteger
  | missingFloat
  | missingInteger
  deriving DecidableEq

def LiteralError.message : LiteralError → String
  | .floatOverflow => "int too large to convert to float"
  | .infinityToInteger => "cannot convert float infinity to integer"
  | .nanToInteger => "cannot convert float NaN to integer"
  | .missingFloat => "float() argument must be a string or a real number, not 'NoneType'"
  | .missingInteger =>
    "int() argument must be a string, a bytes-like object or a real number, not 'NoneType'"

/-! ### Suffixed floating constants -/

namespace FloatSuffix

/-- Digits with an optional point among them or before them, followed by the rest; `none` when no digit
can be read. A point is taken only if a digit follows it. -/
def afterMantissa? (cs : List Char) : Option (List Char) :=
  let whole := cs.takeWhile Char.isDigit
  let rest := cs.dropWhile Char.isDigit
  match rest with
  | '.' :: fraction =>
    if (fraction.takeWhile Char.isDigit).isEmpty then
      if whole.isEmpty then none else some rest
    else some (fraction.dropWhile Char.isDigit)
  | _ => if whole.isEmpty then none else some rest

/-- What follows an optional sign. -/
def afterSign : List Char → List Char
  | '+' :: rest => rest
  | '-' :: rest => rest
  | cs => cs

/-- What follows an optional exponent; `none` when an exponent mark has no digits. -/
def afterExponent? : List Char → Option (List Char)
  | c :: rest =>
    if c = 'e' ∨ c = 'E' then
      let digits := afterSign rest
      if (digits.takeWhile Char.isDigit).isEmpty then none else some (digits.dropWhile Char.isDigit)
    else some (c :: rest)
  | [] => some []

/-- Whether the text is a constant whose suffix is trimmed: a mantissa, an optional exponent and an
optional final point. -/
def isConstant (cs : List Char) : Bool :=
  match (afterMantissa? cs).bind afterExponent? with
  | some [] => true
  | some ['.'] => true
  | _ => false

/-- A text without one line feed at its end. -/
def dropFinalNewline (cs : List Char) : List Char :=
  if cs.getLast? = some '\n' then cs.dropLast else cs

/-- The constant before the suffix, if the text is a suffixed constant. -/
def split? (cs : List Char) : Option (List Char) :=
  let line := dropFinalNewline cs
  match line.getLast? with
  | some c =>
    if (c = 'f' ∨ c = 'F') ∧ isConstant line.dropLast then some line.dropLast else none
  | none => none

/-- A constant that has neither a point nor an exponent gets a fraction. -/
def withFraction (cs : List Char) : List Char :=
  if cs.any fun c => c == '.' || c == 'e' || c == 'E' then cs else cs ++ ['.', '0']

/-- The spelling without its suffix; any other spelling is unchanged. -/
def trim (spelling : String) : String :=
  match split? spelling.toList with
  | some constant => String.ofList (withFraction constant)
  | none => spelling

end FloatSuffix

/-! ### Literals of every type -/

namespace Scalar

/-- Whether the value counts as true. A not-a-number does. -/
def truth : Scalar → Bool
  | .int n => n ≠ 0
  | .float x => !x.isZero
  | .bool b => b
  | .missing => false

/-- The value as a double. -/
def toDouble : Scalar → Except LiteralError Double
  | .int n =>
    match Double.ofInt n with
    | .infinite _ => .error .floatOverflow
    | x => .ok x
  | .float x => .ok x
  | .bool b => .ok (Double.ofInt (if b then 1 else 0))
  | .missing => .error .missingFloat

/-- The value as an integer, a fraction being dropped. -/
def toInteger : Scalar → Except LiteralError Int
  | .int n => .ok n
  | .float .nan => .error .nanToInteger
  | .float (.infinite _) => .error .infinityToInteger
  | .float (.finite negative significand exponent) =>
    .ok (Double.truncate negative significand exponent)
  | .bool b => .ok (if b then 1 else 0)
  | .missing => .error .missingInteger

/-- A value of a type that is none of the scalar types. -/
def plainText : Scalar → String
  | .int n => toString n
  | .float x => DecimalFormat.standard.text x
  | .bool b => if b then "True" else "False"
  | .missing => "None"

end Scalar

/-- A floating text always shows that it is one: without a point or an exponent it gets a fraction. -/
def floatText (x : Double) : String :=
  let text := DecimalFormat.standard.text x
  if text.toList.any fun c => c == '.' || c == 'e' then text else text ++ ".0"

/-- The text of a literal of the type with the given base name. -/
def literalText (tier : Tier) (value : Value) (base : String) : Except LiteralError String :=
  match value with
  | .spelling text => .ok (if tier.trimsFloatSuffix then FloatSuffix.trim text else text)
  | .scalar value =>
    if base = "bool" then .ok (if value.truth then "true" else "false")
    else if base = "float" then value.toDouble.map floatText
    else if base = "int" ∨ base = "uint" then value.toInteger.map toString
    else .ok value.plainText

end GlslCompiler
