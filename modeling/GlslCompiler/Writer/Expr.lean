import GlslCompiler.Writer.Literal

/-!
# Writing expressions

An expression is written with as few parentheses as its operators need: each position asks for a least
precedence, and an expression that binds less tightly is put in parentheses there. The right operand of
a binary operator asks for one more than the operator itself, so that operators group to the left.
-/

namespace GlslCompiler

/-- How tightly each operator binds. -/
def operatorPrecedences : List (String × Int) := [
  ("=", 1), ("?", 2), ("||", 3), ("^^", 4), ("&&", 5), ("|", 6), ("^", 7), ("&", 8),
  ("==", 9), ("!=", 9), ("<", 10), (">", 10), ("<=", 10), (">=", 10), ("<<", 11), (">>", 11),
  ("+", 12), ("-", 12), ("*", 13), ("/", 13), ("%", 13), ("unary", 14), ("call", 15),
  ("member", 16)]

/-- The precedence of an operator; one that is not in the table binds least. -/
def operatorPrecedence (operator : String) : Int := (operatorPrecedences.lookup operator).getD 0

namespace Precedence

def conditional : Int := 2

def unary : Int := 14

def call : Int := 15

def member : Int := 16

/-- The precedence of literals and names. -/
def atom : Int := 100

end Precedence

/-- How tightly an expression binds. -/
def Expr.precedence : Expr → Int
  | .binary operator _ _ => operatorPrecedence operator
  | .unary _ _ => Precedence.unary
  | .conditional _ _ _ => Precedence.conditional
  | .call _ _ => Precedence.call
  | .construct _ _ => Precedence.call
  | .field _ _ => Precedence.member
  | .swizzle _ _ => Precedence.member
  | .index _ _ => Precedence.member
  | .literal _ _ => Precedence.atom
  | .name _ => Precedence.atom
  | .unknown => Precedence.atom

/-- Puts a text in parentheses when its precedence is below what its position asks for. A position that
asks for nothing takes any expression. -/
def group (asked precedence : Int) (text : String) : String :=
  if 0 < asked ∧ precedence < asked then "(" ++ text ++ ")" else text

/-- The operand of a unary operator: a sign in front would join with the operator into another one. -/
def guardSign (operand : String) : String :=
  match operand.toList with
  | '-' :: _ => "(" ++ operand ++ ")"
  | '+' :: _ => "(" ++ operand ++ ")"
  | _ => operand

/-- A type with the size of its array, if it is one. -/
def GlslType.text (type : GlslType) : String :=
  match type.arraySize with
  | some size => type.base ++ "[" ++ toString size ++ "]"
  | none => type.base

mutual

/-- The text of an expression, without parentheses around the whole. -/
def Expr.text (tier : Tier) : Expr → Except LiteralError String
  | .literal value type => literalText tier value type.base
  | .name identifier => .ok identifier
  | .binary operator left right => do
    let leftText ← left.text tier
    let rightText ← right.text tier
    let precedence := operatorPrecedence operator
    return group precedence left.precedence leftText ++ " " ++ operator ++ " "
      ++ group (precedence + 1) right.precedence rightText
  | .unary operator operand => do
    let operandText ← operand.text tier
    return operator ++ guardSign (group Precedence.unary operand.precedence operandText)
  | .call function arguments => do
    let texts ← Expr.texts tier arguments
    return function ++ "(" ++ ", ".intercalate texts ++ ")"
  | .construct type arguments => do
    let texts ← Expr.texts tier arguments
    return type.text ++ "(" ++ ", ".intercalate texts ++ ")"
  | .swizzle base components => do
    let baseText ← base.text tier
    return group Precedence.member base.precedence baseText ++ "." ++ components
  | .field base member => do
    let baseText ← base.text tier
    return group Precedence.member base.precedence baseText ++ "." ++ member
  | .index base position => do
    let baseText ← base.text tier
    let positionText ← position.text tier
    return group Precedence.member base.precedence baseText ++ "[" ++ positionText ++ "]"
  | .conditional condition whenTrue whenFalse => do
    let conditionText ← condition.text tier
    let trueText ← whenTrue.text tier
    let falseText ← whenFalse.text tier
    return group (Precedence.conditional + 1) condition.precedence conditionText ++ " ? "
      ++ trueText ++ " : " ++ group Precedence.conditional whenFalse.precedence falseText
  | .unknown => .ok ""

/-- The texts of a list of expressions, in order. -/
def Expr.texts (tier : Tier) : List Expr → Except LiteralError (List String)
  | [] => .ok []
  | e :: rest => do
    let text ← e.text tier
    let texts ← Expr.texts tier rest
    return text :: texts

end

/-- The text of an expression in a position that asks for a precedence. -/
def Expr.textAt (tier : Tier) (asked : Int) (e : Expr) : Except LiteralError String :=
  (e.text tier).map (group asked e.precedence)

end GlslCompiler
